import PacketReinjection.Text.Pattern.Fault
import PacketReinjection.Text.Pattern.Written

/-!
# `Text.Pattern.Depth` — how deep the parts of a pattern stand within each other

Groups, quantified items, classes, sequences and alternatives each stand one deeper than what they are part
of. There is a limit, and of the parts beyond it the first one is at fault.

## Contents
- **`depthLimit`** — the limit.
- **`WrittenSet.checkDepth`**, **`Written.checkDepth`** — the fault, if there is one.
-/

namespace PacketReinjection.Text

/-- How deep parts may stand within each other. -/
def depthLimit : Nat := 250

/-- A part that stands within `depth` others. -/
def enterPart (depth : Nat) (span : Span) : Except PatternError Unit :=
  if depth < depthLimit then .ok () else fail (.tooDeep depthLimit) span

mutual

/-- Check what stands between brackets, within `depth` other parts. -/
def WrittenSet.checkDepth (depth : Nat) : WrittenSet → Except PatternError Unit
  | .bracketed span _ inner => do
    enterPart depth span
    inner.checkDepth (depth + 1)
  | .union span items => do
    enterPart depth span
    checkItemsDepth (depth + 1) items
  | .combined span _ left right => do
    enterPart depth span
    left.checkDepth (depth + 1)
    right.checkDepth (depth + 1)
  | .empty _ | .char _ | .range _ _ | .ascii _ _ _ | .property _ | .short _ _ _ => .ok ()

/-- Check items of a class one after the other. -/
def checkItemsDepth (depth : Nat) : List WrittenSet → Except PatternError Unit
  | [] => .ok ()
  | item :: rest => do
    item.checkDepth depth
    checkItemsDepth depth rest

end

mutual

/-- Check a pattern within `depth` other parts. -/
def Written.checkDepth (depth : Nat) : Written → Except PatternError Unit
  | .bracketed span _ set => do
    enterPart depth span
    set.checkDepth (depth + 1)
  | .repeated span _ _ _ body | .group span _ _ body => do
    enterPart depth span
    body.checkDepth (depth + 1)
  | .sequence span items | .alternatives span items => do
    enterPart depth span
    checkPartsDepth (depth + 1) items
  | .empty _ | .flags _ _ | .char _ | .dot _ | .anchor _ _ | .property _ | .short _ _ _ => .ok ()

/-- Check patterns one after the other. -/
def checkPartsDepth (depth : Nat) : List Written → Except PatternError Unit
  | [] => .ok ()
  | item :: rest => do
    item.checkDepth depth
    checkPartsDepth depth rest

end

end PacketReinjection.Text

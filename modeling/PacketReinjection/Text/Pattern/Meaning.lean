import PacketReinjection.Text.Pattern.Fault
import PacketReinjection.Text.Pattern.Normal
import PacketReinjection.Text.Pattern.Written
import PacketReinjection.Text.Unicode.Property

/-!
# `Text.Pattern.Meaning` — what a written pattern means

Flags in force decide what a sign means: `i` lets letters match in either case, `m` lets `^` and `$` match at
every line and `R` lets lines end with carriage returns, `s` lets `.` match line feeds, `U` swaps greedy and
rare quantifiers, and without `u` only ASCII is looked at. What would then match outside ASCII is a fault,
since a match must not end within a character.

## Contents
- **`Flags`** — the flags in force.
- **Sets.** `ShortClass.set`, `AsciiClass.set`, `WrittenProperty.set`, `WrittenSet.set`.
- **Anchors.** `WrittenAnchor.meaning`.
- **`Pattern.quantified`** — a pattern under a quantifier.
- **`Written.meaning`** — a whole pattern.
-/

namespace PacketReinjection.Text

/-! ## Flags -/

/-- The flags in force. -/
structure Flags where
  caseless : Bool
  multiLine : Bool
  dotAll : Bool
  swapGreed : Bool
  unicode : Bool
  crlf : Bool
  deriving DecidableEq

namespace Flags

/-- The flags at the start of a pattern. -/
def start : Flags := ⟨false, false, false, false, true, false⟩

/-- Set or take away one flag. -/
def set (f : Flags) (setting : Flag × Bool) : Flags :=
  match setting.1 with
  | .caseless => { f with caseless := setting.2 }
  | .multiLine => { f with multiLine := setting.2 }
  | .dotAll => { f with dotAll := setting.2 }
  | .swapGreed => { f with swapGreed := setting.2 }
  | .unicode => { f with unicode := setting.2 }
  | .crlf => { f with crlf := setting.2 }
  | .verbose => f

/-- Set or take away several flags. -/
def setAll (f : Flags) (settings : List (Flag × Bool)) : Flags := settings.foldl set f

/-- A set with what differs in case only, if case does not count. -/
def fold (f : Flags) (s : CharSet) : CharSet :=
  if f.caseless then (if f.unicode then .caseless s else .asciiCaseless s) else s

/-- What is not in a set. Where only ASCII is looked at, this is a fault. -/
def negate (f : Flags) (span : Span) (negated : Bool) (s : CharSet) : Except PatternError CharSet :=
  if negated then
    if f.unicode then .ok (.complement s) else fail .splitsCharacter span
  else .ok s

end Flags

/-! ## Sets -/

/-- The characters of a class with a letter of its own. -/
def ShortClass.set (f : Flags) (span : Span) (negated : Bool) (name : ShortClass) :
    Except PatternError CharSet :=
  f.negate span negated
    (match name with
    | .decimal => if f.unicode then .decimal else .range '0' '9'
    | .blank => if f.unicode then .blank else .union (.range '\t' '\r') (.char ' ')
    | .word =>
      if f.unicode then .word
      else .unionAll [.range '0' '9', .range 'A' 'Z', .char '_', .range 'a' 'z'])

/-- The characters of a class of ASCII. -/
def AsciiClass.set : AsciiClass → CharSet
  | alnum => .unionAll [.range '0' '9', .range 'A' 'Z', .range 'a' 'z']
  | alpha => .union (.range 'A' 'Z') (.range 'a' 'z')
  | ascii => .range '\x00' '\x7f'
  | blank => .union (.char '\t') (.char ' ')
  | cntrl => .union (.range '\x00' '\x1f') (.char '\x7f')
  | digit => .range '0' '9'
  | graph => .range '!' '~'
  | lower => .range 'a' 'z'
  | print => .range ' ' '~'
  | punct => .unionAll [.range '!' '/', .range ':' '@', .range '[' '\x60', .range '\x7b' '~']
  | space => .union (.range '\t' '\r') (.char ' ')
  | upper => .range 'A' 'Z'
  | word => .unionAll [.range '0' '9', .range 'A' 'Z', .char '_', .range 'a' 'z']
  | xdigit => .unionAll [.range '0' '9', .range 'A' 'F', .range 'a' 'f']

/-- The characters that are asked for. -/
def PropertyQuery.ranges : PropertyQuery → Except Unicode.PropertyFault Unicode.Ranges
  | named name => Unicode.namedSet name
  | valued property value => Unicode.valueSet property value

/-- The characters of a class given by a property. -/
def WrittenProperty.set (f : Flags) (p : WrittenProperty) : Except PatternError CharSet :=
  if f.unicode then
    match p.query.ranges with
    | .ok ranges => f.negate p.span p.negated (f.fold (.ranges ranges))
    | .error .unknownProperty => fail .propertyUnknown p.span
    | .error .unknownValue => fail .propertyValueUnknown p.span
  else fail .beyondAscii p.span

/-- A character where only ASCII is looked at may not be written as a byte outside ASCII. -/
def WrittenChar.checkByte (f : Flags) (c : WrittenChar) : Except PatternError Unit :=
  if !f.unicode && c.isByte && c.value.toNat ≥ 0x80 then fail .splitsCharacter c.span else .ok ()

/-- A character of a class; where only ASCII is looked at, it has to be one of ASCII. -/
def WrittenChar.member (f : Flags) (c : WrittenChar) : Except PatternError Char := do
  c.checkByte f
  if !f.unicode && c.value.toNat ≥ 0x80 then fail .beyondAscii c.span else return c.value

/-- Two sets under an operation. -/
def SetOperation.apply (o : SetOperation) (s t : CharSet) : CharSet :=
  match o with
  | intersection => .intersection s t
  | difference => .intersection s (.complement t)
  | symmetricDifference => .intersection (.union s t) (.complement (.intersection s t))

mutual

/-- The characters of what stands between brackets. -/
def WrittenSet.set (f : Flags) : WrittenSet → Except PatternError CharSet
  | .empty _ => .ok (.ranges [])
  | .char c => do return .char (← c.member f)
  | .range first last => do return .range (← first.member f) (← last.member f)
  | .ascii span name negated => f.negate span negated (f.fold name.set)
  | .property p => p.set f
  | .short span name negated => name.set f span negated
  | .bracketed span negated inner => do f.negate span negated (f.fold (← inner.set f))
  | .union _ items => do return .unionAll (← itemSets f items)
  | .combined _ o left right => do
    return o.apply (f.fold (← left.set f)) (f.fold (← right.set f))

/-- The characters of each of several items. -/
def itemSets (f : Flags) : List WrittenSet → Except PatternError (List CharSet)
  | [] => .ok []
  | item :: rest => do return (← item.set f) :: (← itemSets f rest)

end

/-! ## Anchors -/

/-- The condition that an anchor stands for. -/
def WrittenAnchor.meaning (f : Flags) : WrittenAnchor → Anchor
  | lineStart => if f.multiLine then (if f.crlf then .crlfLineStart else .lineStart) else .textStart
  | lineEnd => if f.multiLine then (if f.crlf then .crlfLineEnd else .lineEnd) else .textEnd
  | textStart => .textStart
  | textEnd => .textEnd
  | wordEdge => word .edge
  | noWordEdge => word .noEdge
  | wordStart => word .start
  | wordEnd => word .finish
  | wordStartHalf => word .startHalf
  | wordEndHalf => word .finishHalf
where
  /-- A place in a word, as far as Unicode counts. -/
  word (place : WordPlace) : Anchor := if f.unicode then .word place else .asciiWord place

/-! ## Patterns -/

namespace Pattern

/-- A pattern under a quantifier. What takes in no character is tried once at most. -/
def quantified (p : Pattern) (least : Nat) (most : Option Nat) (greedy : Bool) : Pattern :=
  let least := if p.isZeroWidth then min least 1 else least
  let most := if p.isZeroWidth then some (min (most.getD 1) 1) else most
  if most = some 0 then empty
  else if least = 1 ∧ most = some 1 then p
  else repeated p least most greedy

/-- A character of a set, which is one of bytes where only ASCII is looked at. -/
def ofSet (f : Flags) (s : CharSet) : Pattern := one (if f.unicode then s else .bytes s).canonical

/-- A group, if it is remembered. -/
def grouped (index : Option Nat) (p : Pattern) : Pattern :=
  match index with
  | none => p
  | some i => group i p

end Pattern

/-- A character as a pattern. -/
def WrittenChar.meaning (f : Flags) (c : WrittenChar) : Except PatternError Pattern := do
  c.checkByte f
  if f.caseless && (f.unicode && !(Unicode.caseVariants c.value).isEmpty
      || !f.unicode && c.value.isAlpha) then
    return .ofSet f (f.fold (.char c.value))
  else return .one (.char c.value)

/-- What a dot matches. -/
def dotMeaning (f : Flags) (span : Span) : Except PatternError Pattern :=
  if !f.unicode then fail .splitsCharacter span
  else if f.dotAll then .ok (.ofSet f .any)
  else if f.crlf then .ok (.ofSet f (.complement (.union (.char '\r') (.char '\n'))))
  else .ok (.ofSet f .inLine)

mutual

/-- What a pattern means under the flags in force, and the flags for what follows it. -/
def Written.meaning (f : Flags) : Written → Except PatternError (Pattern × Flags)
  | .empty _ => .ok (.empty, f)
  | .flags _ settings => .ok (.empty, f.setAll settings)
  | .char c => do return (← c.meaning f, f)
  | .dot span => do return (← dotMeaning f span, f)
  | .anchor _ a => .ok (.anchor (a.meaning f), f)
  | .property p => do return (.ofSet f (← p.set f), f)
  | .short span name negated => do return (.ofSet f (← name.set f span negated), f)
  | .bracketed span negated set => do
    return (.ofSet f (← f.negate span negated (f.fold (← set.set f))), f)
  | .repeated _ least most greedy body => do
    let (p, after) ← body.meaning f
    return (p.quantified least most (greedy != after.swapGreed), after)
  | .group _ index settings body => do
    let (p, _) ← body.meaning (f.setAll settings)
    return (.grouped index p, f)
  | .sequence _ items => do
    let (ps, after) ← meanings f items
    return (.joined ps, after)
  | .alternatives _ items => do
    let (ps, after) ← meanings f items
    return (.either ps, after)

/-- What several patterns mean one after the other. -/
def meanings (f : Flags) : List Written → Except PatternError (List Pattern × Flags)
  | [] => .ok ([], f)
  | item :: rest => do
    let (p, after) ← item.meaning f
    let (ps, last) ← meanings after rest
    return (p :: ps, last)

end

end PacketReinjection.Text

import PacketReinjection.Tunable.Token.Basic

/-!
# `Tunable.Grammar` — reading tokens

A rule of a grammar takes tokens from the front of a row and keeps their text. A rule that does not fit
refuses the row. What is left over between two brackets is no refusal: the rule goes on behind the
brackets, and the reading is marked as loose.

## Contents
- **`Reading`** — the row that is left, the text taken, and whether something was left over.
- **`Grammar`** — rules.
- **Looking ahead.** `startsWith`, `startsWord`, `startsName`, `startsGroup` and others, on rows of tokens.
- **Taking.** `accept`, `skip`, `marks`, `word`, `inGroup`, `verbatim`.
- **Repeating.** `gather`, `commaList`.
-/

namespace PacketReinjection.Tunable

/-- How far a row of tokens has been read. -/
structure Reading where
  rest : List Token
  text : String
  /-- Whether brackets held more than the rules took. -/
  loose : Bool

/-- Rules of a grammar. -/
abbrev Grammar := StateT Reading Option

/-! ## Looking ahead -/

namespace Token

/-- Whether a row starts with punctuation characters that follow each other directly. -/
def startsWithMarks : List Char → List Token → Bool
  | [], _ => true
  | [c], .mark d _ :: _ => c = d
  | c :: cs, .mark d joint :: rest => c = d && joint && startsWithMarks cs rest
  | _, _ => false

/-- Whether a row starts with the punctuation `text`. -/
def startsWith (text : String) (row : List Token) : Bool := startsWithMarks text.toList row

/-- Whether a row starts with a word, as it is spelled. -/
def startsWord (w : String) : List Token → Bool
  | .name spelling raw :: _ => spelling = w && !raw
  | _ => false

/-- Whether a row starts with a word of a list. -/
def startsWordOf (ws : List String) (row : List Token) : Bool := ws.any fun w => startsWord w row

/-- The words that are no names. -/
def keywords : List String :=
  ["_", "abstract", "as", "async", "await", "become", "box", "break", "const", "continue", "crate",
    "do", "dyn", "else", "enum", "extern", "false", "final", "fn", "for", "if", "impl", "in", "let",
    "loop", "macro", "match", "mod", "move", "mut", "override", "priv", "pub", "ref", "return",
    "Self", "self", "static", "struct", "super", "trait", "true", "try", "type", "typeof", "unsafe",
    "unsized", "use", "virtual", "where", "while", "yield"]

/-- Whether a row starts with a name. -/
def startsName : List Token → Bool
  | .name spelling raw :: _ => raw || !keywords.contains spelling
  | _ => false

/-- Whether a row starts with a name or a keyword. -/
def startsAnyName : List Token → Bool
  | .name _ _ :: _ => true
  | _ => false

def startsLifetime : List Token → Bool
  | .lifetime _ :: _ => true
  | _ => false

/-- Whether a row starts with a literal, which may be a number behind a minus sign. -/
def startsLiteral : List Token → Bool
  | .literal _ _ :: _ => true
  | .mark '-' _ :: .literal _ (.integer _ _) :: _ => true
  | .mark '-' _ :: .literal _ .fraction :: _ => true
  | row => startsWordOf ["true", "false"] row

def startsGroup (d : Delimiter) : List Token → Bool
  | .group opened _ :: _ => opened = d
  | _ => false

end Token

namespace Grammar

variable {α : Type}

/-- Whether the row that is left is of some form. -/
def ahead (p : List Token → Bool) : Grammar Bool := do return p (← get).rest

/-- Whether no token is left. -/
def atEnd : Grammar Bool := ahead List.isEmpty

/-- Refuse the row unless it is of some form. -/
def require (p : List Token → Bool) : Grammar Unit := do
  if ← ahead p then pure () else failure

/-! ## Taking -/

/-- Take some tokens. -/
def accept (n : Nat) : Grammar Unit := modify fun s =>
  { s with rest := s.rest.drop n, text := s.text ++ Token.renderAll (s.rest.take n) }

/-- Take some tokens and leave their text out. -/
def skip (n : Nat) : Grammar Unit := modify fun s => { s with rest := s.rest.drop n }

/-- Take one token of some form. -/
def one (p : List Token → Bool) : Grammar Unit := do
  require p
  accept 1

/-- Take one token of some form if the row starts with one. -/
def optionalOne (p : List Token → Bool) : Grammar Bool := do
  if ← ahead p then
    accept 1
    return true
  else
    return false

/-- Take punctuation. -/
def marks (text : String) : Grammar Unit := do
  require (Token.startsWith text)
  accept text.length

/-- Take punctuation if the row starts with it. -/
def optionalMarks (text : String) : Grammar Bool := do
  if ← ahead (Token.startsWith text) then
    accept text.length
    return true
  else
    return false

/-- Take a word. -/
def word (w : String) : Grammar Unit := one (Token.startsWord w)

/-- Take a word if the row starts with it. -/
def optionalWord (w : String) : Grammar Bool := optionalOne (Token.startsWord w)

/-- Take a literal. -/
def literal : Grammar Unit := do
  require Token.startsLiteral
  let _ ← optionalMarks "-"
  accept 1

/-- Take what stands between brackets by a rule. -/
def inGroup (d : Delimiter) (body : Grammar α) : Grammar α := fun s =>
  match s.rest with
  | .group opened inner :: rest =>
    if opened = d then
      match body ⟨inner, s.text ++ d.characters.1.toString, s.loose⟩ with
      | some (a, t) =>
        some (a, ⟨rest, t.text ++ d.characters.2.toString, t.loose || !t.rest.isEmpty⟩)
      | none => none
    else none
  | _ => none

/-- The text that a rule takes, which does not become part of the text taken so far. -/
def captured (g : Grammar α) : Grammar (α × String) := fun s =>
  (g { s with text := "" }).map fun (a, t) => ((a, t.text), { t with text := s.text })

/-- A rule whose tokens are kept as they stand, whatever text it takes. -/
def verbatim (g : Grammar α) : Grammar α := fun s =>
  (g s).map fun (a, t) =>
    let taken := s.rest.take (s.rest.length - t.rest.length)
    (a, { t with text := s.text ++ Token.renderAll taken })

/-- Add to the text taken so far. -/
def write (text : String) : Grammar Unit := modify fun s => { s with text := s.text ++ text }

/-! ## Repeating -/

/-- Repeat a rule while it has results, `n` times at most. -/
def gatherUpTo (step : Grammar (Option α)) : Nat → Grammar (List α)
  | 0 => return []
  | n + 1 => do
    match ← step with
    | some a => return a :: (← gatherUpTo step n)
    | none => return []

/-- Repeat a rule that takes a token whenever it has a result. -/
def gather (step : Grammar (Option α)) : Grammar (List α) := do
  gatherUpTo step ((← get).rest.length + 1)

/-- Repeat a rule that takes a token whenever it says so. -/
def repeatWhile (step : Grammar Bool) : Grammar Unit := do
  let _ ← gather do return if ← step then some () else none

/-- Take items with commas between them up to the end of the row; a comma may stand behind the last. -/
def commaList (item : Grammar Unit) : Grammar Unit := repeatWhile do
  if ← atEnd then
    return false
  item
  if !(← atEnd) then
    marks ","
  return true

end Grammar

end PacketReinjection.Tunable

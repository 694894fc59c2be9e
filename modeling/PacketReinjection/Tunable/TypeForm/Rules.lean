import PacketReinjection.Tunable.Grammar

/-!
# `Tunable.TypeForm.Rules` — what types, bounds and expressions hold each other in

Types hold types, bounds and, in the length of an array, expressions; bounds and expressions hold types too.
Every rule is written over the three as given, and they are tied together afterwards.

## Contents
- **`ArgumentForm`**, **`PathForm`** — what a path looks like, as far as other rules ask.
- **`Form`** — what a type looks like.
- **`Rules`** — the three rules that the others are written over.
-/

namespace PacketReinjection.Tunable

/-- The arguments of one word of a path. -/
inductive ArgumentForm where
  | none
  /-- Angle brackets with nothing between them. -/
  | vacant
  | angled
  deriving DecidableEq

/-- What a path looks like. -/
structure PathForm where
  /-- Whether it starts with colons. -/
  rooted : Bool
  /-- The arguments of its words. -/
  arguments : List ArgumentForm
  deriving DecidableEq

namespace PathForm

/-- Whether no word has arguments. -/
def isBare (p : PathForm) : Bool := p.arguments.all (· = .none)

/-- Whether the last word has no arguments; angle brackets with nothing between them are none. -/
def endsBare (p : PathForm) : Bool := p.arguments.getLast?.any (· ≠ .angled)

/-- Whether the path ends in angle brackets with nothing between them. -/
def endsVacant (p : PathForm) : Bool := p.arguments.getLast? = some .vacant

/-- Whether the path is one word, with arguments in angle brackets or none. -/
def isSingle (p : PathForm) : Bool :=
  !p.rooted && p.arguments.length = 1

end PathForm

/-- What a type looks like. -/
inductive Form where
  /-- A path. -/
  | path (p : PathForm)
  /-- A single bound that brings parameters. -/
  | bound
  /-- A single bound in parentheses of its own. -/
  | enclosedBound
  | other
  deriving DecidableEq

/-- The rules that the others are written over. -/
structure Rules where
  /-- A type; the flag says whether bounds may be added to it. -/
  type : Bool → Grammar Form
  /-- A bound; the answer says whether it is a trait. -/
  bound : Grammar Bool
  expression : Grammar Unit

end PacketReinjection.Tunable

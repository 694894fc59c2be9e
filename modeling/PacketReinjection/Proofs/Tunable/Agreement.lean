import PacketReinjection.Proofs.Text.Library
import PacketReinjection.Proofs.Tunable.Environment
import PacketReinjection.Proofs.Tunable.Library
import PacketReinjection.Proofs.Tunable.Matching
import PacketReinjection.Proofs.Tunable.Reading

/-!
# `Proofs.Tunable.Agreement` — where a header agrees with a declaration

One text is read twice, as a declaration and by the header's pattern, each time by way of a library. The name and the
variable are the same in both. The numbers are not: a declaration takes every spelling of a number, and the header the
decimal digits that it starts with. So the two agree in every environment exactly where these digits spell the default,
and the minimum too.

## Contents
- **`agree_iff`** — when the values are the same in every environment.
- **`tunables_agree_iff`** — the header of an invocation against its declaration.
- **`tunables_agree_of_plain`** — decimal spellings.
-/

namespace PacketReinjection.Tunable

open Text Header

/-! ## Where header and declaration agree -/

section Agreement

variable {i : Invocation} {d : Declaration}

/-- The values are the same in every environment exactly if the digits of the default spell it, and the minimum is
    taken as it is declared or makes no difference. -/
theorem agree_iff (h : Declares i d) (hset : canBeSet i.variableName) (hreturn : '\r' ∉ i.setBy.chars) :
    (∀ env : Environment, resolve (env.lookup? i.variableName) i.standard.shown i.shownLeast =
        d.value (env.lookup? d.setBy)) ↔
      i.standard.shown = d.standard ∧ (i.shownLeast = d.least ∨ d.standard = 0) := by
  have hvalue : ∀ env : Environment, d.value (env.lookup? d.setBy) =
      resolve (env.lookup? i.variableName) d.standard d.least := by
    intro env
    rw [Declaration.value, h.setBy hreturn, if_pos hset]
  have hlimit : i.standard.shown < numberLimit := Nat.lt_of_le_of_lt IntegerSpelling.shown_le h.fits
  have hordered : d.least ≤ d.standard := by
    rw [h.least, h.standard]
    exact h.ordered
  rw [← resolve_agree_iff hlimit (Invocation.shownLeast_le h.ordered) hordered]
  simp only [hvalue]
  constructor
  · -- Every content of the variable is found in some environment.
    intro hagree value
    cases value with
    | none =>
      have hnone := hagree []
      rwa [lookup?_nil] at hnone
    | some text =>
      have hsome := hagree [(i.variableName, text)]
      rwa [lookup?_single text hset] at hsome
  · intro hagree env
    exact hagree _

/-- Decimal digits alone are taken by the header as they are declared. -/
theorem Declares.shown_of_plain (h : Declares i d) (hstandard : i.standard.plain)
    (hleast : ∀ n, i.ending = .least n → n.plain) : i.standard.shown = d.standard ∧ i.shownLeast = d.least := by
  refine ⟨by rw [h.standard, IntegerSpelling.shown_of_plain hstandard], ?_⟩
  rw [h.least, Invocation.shownLeast, if_pos hstandard]
  cases hending : i.ending with
  | bare | comma => rfl
  | least n => exact IntegerSpelling.shown_of_plain (hleast n hending)

/-! ## The header of an invocation -/

variable [RegexLibrary] (hpattern : RegexLibrary.Provides tunablePatternText tunablePattern)
  {gap arguments : List Char}

include hpattern

/-- The one tunable that the header takes from a declaration. -/
theorem tunables_of_declares (h : Declares i d) (hgap : Blank gap) (hargs : i.WrittenAs arguments) (path : String)
    (env : Environment) :
    tunables (String.ofList (invocation gap arguments)) path env =
      .ok [⟨d.name, resolve (env.lookup? i.variableName) i.standard.shown i.shownLeast⟩] := by
  rw [h.name]
  exact tunables_text hpattern i hgap hargs h.fits (Nat.lt_of_le_of_lt h.ordered h.fits) path env

variable [SyntaxLibrary] (hlibrary : SyntaxLibrary.Understands)

include hlibrary

/-- The header of an invocation and its declaration agree wherever the numbers are spelled in decimal digits. -/
theorem tunables_agree_of_plain (hgap : Blank gap) (hargs : i.WrittenAs arguments)
    (h : Declaration.ofText (String.ofList arguments) = .ok d) (hset : canBeSet i.variableName)
    (hreturn : '\r' ∉ i.setBy.chars) (hstandard : i.standard.plain) (hleast : ∀ n, i.ending = .least n → n.plain)
    (path : String) (env : Environment) :
    tunables (String.ofList (invocation gap arguments)) path env = .ok [⟨d.name, d.value (env.lookup? d.setBy)⟩] := by
  have hdeclares := declares_of_ofText hlibrary hargs h
  obtain ⟨hstandard, hleast⟩ := hdeclares.shown_of_plain hstandard hleast
  have hagree := (agree_iff hdeclares hset hreturn).mpr ⟨hstandard, .inl hleast⟩
  rw [tunables_of_declares hpattern hdeclares hgap hargs, hagree env]

/-- The header of an invocation that is read as a declaration has one tunable, of the declared name. Its value is
    that of the decimal digits the numbers start with, so that it is the declared value in every environment exactly
    if these digits spell the default, and the minimum is taken as it is declared or makes no difference. -/
theorem tunables_agree_iff (hgap : Blank gap) (hargs : i.WrittenAs arguments)
    (h : Declaration.ofText (String.ofList arguments) = .ok d) (path : String) :
    (∀ env, tunables (String.ofList (invocation gap arguments)) path env =
        .ok [⟨d.name, resolve (env.lookup? i.variableName) i.standard.shown i.shownLeast⟩]) ∧
      (canBeSet i.variableName → '\r' ∉ i.setBy.chars →
        ((∀ env, tunables (String.ofList (invocation gap arguments)) path env =
            .ok [⟨d.name, d.value (env.lookup? d.setBy)⟩]) ↔
          i.standard.shown = d.standard ∧ (i.shownLeast = d.least ∨ d.standard = 0))) := by
  have hdeclares := declares_of_ofText hlibrary hargs h
  have hone := fun env => tunables_of_declares hpattern hdeclares hgap hargs path env
  refine ⟨hone, fun hset hreturn => ?_⟩
  rw [← agree_iff hdeclares hset hreturn]
  refine forall_congr' fun env => ?_
  rw [hone env]
  simp

end Agreement

/-! ## Two invocations on which they differ -/

/-- A tunable `SLOTS` that the variable `QUEUE_SLOTS` sets. -/
def slots (standard : IntegerSpelling) (ending : Ending) : Invocation where
  name := .ofAscii 'S' "LOTS".toList (by decide) (by decide) (by decide)
  capital := ⟨by decide, List.all_eq_true.mp (by decide)⟩
  type := .ofAscii 'u' "size".toList (by decide) (by decide) (by decide)
  oneWord := List.all_eq_true.mp (by decide)
  setBy := ⟨"QUEUE_SLOTS".toList, by simp⟩
  named := by decide
  standard := standard
  ending := ending

/-- A minimum behind a default with a suffix. -/
def suffixed : Invocation :=
  slots ⟨.decimal, "16".toList, "u64".toList, by decide, by decide, by decide, by decide⟩
    (.least ⟨.decimal, "8".toList, [], by decide, by decide, by decide, by decide⟩)

/-- A hexadecimal default. -/
def hexadecimal : Invocation :=
  slots ⟨.hexadecimal, "10".toList, [], by decide, by decide, by decide, by decide⟩ .bare

/-- A library that knows the header's expression. -/
@[reducible] def knowingTunables : RegexLibrary := .knowing [(tunablePatternText, tunablePattern)]

theorem provides_knowingTunables : @RegexLibrary.Provides knowingTunables tunablePatternText tunablePattern :=
  RegexLibrary.provides_knowing (by decide +kernel) (by decide)

/-- Pieces with one space or none in front of each. -/
theorem writtenAs_of_spaces (i : Invocation) (spaces : List Bool) (h : spaces.length = i.pieces.length) :
    i.WrittenAs (List.zipWith (· ++ ·) (spaces.map fun space => if space then [' '] else [])
      (i.pieces.map Piece.chars)).flatten := by
  refine .of_gaps (by simpa using h) fun gap hgap => ?_
  obtain ⟨space, -, rfl⟩ := List.mem_map.mp hgap
  cases space <;> decide

/-- A suffix hides the minimum from the header, which takes numbers that the declaration refuses. -/
theorem tunables_suffixed :
    @RegexLibrary.Provides knowingTunables tunablePatternText tunablePattern ∧ SyntaxLibrary.Understands ∧
      @tunables knowingTunables
        "define_env_constant!(SLOTS: usize, env = \"QUEUE_SLOTS\", default = 16u64, min = 8);" "tunables.rs"
        [("QUEUE_SLOTS", "4")] = .ok [⟨"SLOTS", 4⟩] ∧
      Declaration.ofText "SLOTS: usize, env = \"QUEUE_SLOTS\", default = 16u64, min = 8" =
        .ok ⟨"SLOTS", "usize", "QUEUE_SLOTS", 16, 8⟩ ∧
      ¬ ∀ env : Environment,
        @tunables knowingTunables
            "define_env_constant!(SLOTS: usize, env = \"QUEUE_SLOTS\", default = 16u64, min = 8);" "tunables.rs" env =
          .ok [⟨"SLOTS",
            (⟨"SLOTS", "usize", "QUEUE_SLOTS", 16, 8⟩ : Declaration).value (env.lookup? "QUEUE_SLOTS")⟩] := by
  have hgap : Blank [] := by decide
  have hwritten : suffixed.WrittenAs "SLOTS: usize, env = \"QUEUE_SLOTS\", default = 16u64, min = 8".toList :=
    writtenAs_of_spaces suffixed [false, false, true, false, true, true, true, false, true, true, true, false,
      true, true, true] rfl
  have hread : Declaration.ofText "SLOTS: usize, env = \"QUEUE_SLOTS\", default = 16u64, min = 8" =
      .ok ⟨"SLOTS", "usize", "QUEUE_SLOTS", 16, 8⟩ := by decide +kernel
  obtain ⟨hheader, hagree⟩ :=
    @tunables_agree_iff suffixed _ knowingTunables provides_knowingTunables _ _ _ understands hgap hwritten hread
      "tunables.rs"
  have hfour : resolve (Environment.lookup? [("QUEUE_SLOTS", "4")] suffixed.variableName) suffixed.standard.shown
      suffixed.shownLeast = 4 := by decide
  refine ⟨provides_knowingTunables, understands, (hheader [("QUEUE_SLOTS", "4")]).trans (by rw [hfour]), hread,
    fun h => ?_⟩
  have hdiffer := (hagree (by decide) (by decide)).mp h
  exact absurd hdiffer (by decide)

/-- A hexadecimal default begins with a zero, which is all that the header takes of it. -/
theorem tunables_hexadecimal :
    @RegexLibrary.Provides knowingTunables tunablePatternText tunablePattern ∧ SyntaxLibrary.Understands ∧
      @tunables knowingTunables "define_env_constant!(SLOTS: usize, env = \"QUEUE_SLOTS\", default = 0x10);"
        "tunables.rs" [] = .ok [⟨"SLOTS", 0⟩] ∧
      Declaration.ofText "SLOTS: usize, env = \"QUEUE_SLOTS\", default = 0x10" =
        .ok ⟨"SLOTS", "usize", "QUEUE_SLOTS", 16, 1⟩ ∧
      (⟨"SLOTS", "usize", "QUEUE_SLOTS", 16, 1⟩ : Declaration).value none = 16 := by
  have hgap : Blank [] := by decide
  have hwritten : hexadecimal.WrittenAs "SLOTS: usize, env = \"QUEUE_SLOTS\", default = 0x10".toList :=
    writtenAs_of_spaces hexadecimal [false, false, true, false, true, true, true, false, true, true, true] rfl
  have hread : Declaration.ofText "SLOTS: usize, env = \"QUEUE_SLOTS\", default = 0x10" =
      .ok ⟨"SLOTS", "usize", "QUEUE_SLOTS", 16, 1⟩ := by decide +kernel
  have hheader := @tunables_of_declares _ _ knowingTunables provides_knowingTunables _ _
    (declares_of_ofText understands hwritten hread) hgap hwritten "tunables.rs" []
  have hzero : resolve (Environment.lookup? [] hexadecimal.variableName) hexadecimal.standard.shown
      hexadecimal.shownLeast = 0 := by decide
  exact ⟨provides_knowingTunables, understands, hheader.trans (by rw [hzero]), hread, by decide⟩

end PacketReinjection.Tunable

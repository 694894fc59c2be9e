import PacketReinjection.Text.Unicode.Later

/-!
# `Text.Unicode.Identifier` — what names in source text are made of

Names follow the newest version of the standard, so the characters that only it has are listed here.

## Contents
- **`nameStarts`** — what a name starts with, the underscore aside.
- **`nameParts`** — what a name goes on with.
-/

namespace PacketReinjection.Text.Unicode

/-- The newest characters that a name can start with. -/
def newestNameStarts : Ranges :=
  .ofRows
    ["558 58b-58c 209d-209f a7dd-a7e2 ab6c 107bb-107bf 10ed9-10eee 11b0a-11b5f 1246f 12475",
      "12550-12686 16d80-16da8 18cd6 18d1f 18e00-19191 191a0-191d2 1b123-1b12f 1d6a6 1df1f",
      "1df2b-1dfff 2b81e 3d000-3fc3f"]

/-- The newest characters that a name can only go on with. -/
def newestNameTails : Ranges :=
  .ofRows
    ["5c8 b53-b54 1ade-1adf 1aec-1af0 10ecb 10ef0-10ef9 16db0-16db9 1d127 1d250-1d25b 1d25f-1d280"]

/-- What a name starts with, the underscore aside. -/
def nameStarts : Ranges := .unionAll [xidStart, laterLetters, newestNameStarts]

/-- What a name goes on with. -/
def nameParts : Ranges :=
  .unionAll
    [xidContinue, nameStarts, laterVowelMarks, laterVowelSigns, laterMarks, laterDigits, newestNameTails]

end PacketReinjection.Text.Unicode

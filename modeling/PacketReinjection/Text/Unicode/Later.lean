import PacketReinjection.Text.Unicode.Property

/-!
# `Text.Unicode.Later` — characters that the standard gained later

Patterns look characters up as an earlier version of the standard has them. The names of groups and the
writing of text follow the version after it.

## Contents
- **`laterLetters`**, **`laterMarks`** and their like — the characters that the later version added.
- **`groupNameStarts`**, **`groupNameParts`** — letters, and letters with numbers, as of the later version.
- **`shapeless`** — the characters that cannot be written by themselves.
-/

namespace PacketReinjection.Text.Unicode

/-! ## What was added -/

/-- Added letters. -/
def laterLetters : Ranges :=
  .ofRows
    ["88f c5c cdc a7ce-a7cf a7d2 a7d4 a7f1 10940-10959 10ec5-10ec7 11db0-11ddb 16ea0-16eb8",
      "16ebb-16ed3 16ff2-16ff6 187f8-187ff 18d09-18d1e 18d80-18df2 1e6c0-1e6de 1e6e0-1e6e2",
      "1e6e4-1e6e5 1e6e7-1e6ed 1e6f0-1e6f4 1e6fe-1e6ff 2b73a-2b73f 2cea2-2cead 323b0-33479"]

/-- Added marks that count as letters and extend the character before them. -/
def laterVowelMarks : Ranges :=
  .ofRows ["10efa-10efb 11b60 11b62-11b64 11b66 1e6e3 1e6e6 1e6ee-1e6ef 1e6f5"]

/-- Added marks that count as letters and take room of their own. -/
def laterVowelSigns : Ranges := .ofRows ["11b61-11b65/2 11b67"]

/-- Added marks that only extend the character before them. -/
def laterMarks : Ranges := .ofRows ["1acf-1add 1ae0-1aeb"]

/-- Added digits. -/
def laterDigits : Ranges := .ofRows ["11de0-11de9"]

/-- Added symbols. -/
def laterSymbols : Ranges :=
  .ofRows
    ["20c1 2b96 fbc3-fbd2 fd90-fd91 fdc8-fdce 10ed0-10ed8 1ccfa-1ccfc 1ceba-1ced0 1cee0-1cef0",
      "1f6d8 1f777-1f77a 1f8d0-1f8d8 1fa54-1fa57 1fa8a 1fa8e 1fac8 1facd 1faea 1faef 1fbfa"]

/-! ## Names of groups -/

/-- Letters. -/
def groupNameStarts : Ranges := .unionAll [alphabetic, laterLetters, laterVowelMarks, laterVowelSigns]

/-- Letters and numbers. -/
def groupNameParts : Ranges := .unionAll [groupNameStarts, numeric, laterDigits]

/-! ## Writing -/

/-- The characters that cannot be written by themselves: those that extend others, those without a shape,
    the letters that only fill a place, and the code points that are assigned to nothing. -/
def shapeless : Ranges :=
  .unionAll
    [graphemeExtend, laterVowelMarks, laterMarks, categories ["Cc", "Cf", "Co", "Zl", "Zp"],
      (category "Zs").difference [(0x20, 0x20)], .ofRows ["115f-1160 3164 ffa0"],
      unassigned.difference
        (.unionAll [laterLetters, laterVowelSigns, laterDigits, laterSymbols])]

end PacketReinjection.Text.Unicode

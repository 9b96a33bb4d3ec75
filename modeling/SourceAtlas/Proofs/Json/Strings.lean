import SourceAtlas.Json.Printer
import SourceAtlas.Json.Reader

/-! Strings written between quotes read back as the texts they came from. -/

namespace SourceAtlas.Json

/-- Each of the sixteen digits reads back as its own value. -/
theorem hexValue?_hexDigit {value : Nat} (small : value < 16) :
    hexValue? (hexDigit value) = some value := by
  -- There are sixteen cases.
  revert value
  decide

/-- Four hexadecimal digits are the four base-sixteen places of a number. -/
private theorem hexDigits_four (value : Nat) :
    hexDigits 4 value = [hexDigit (value / 4096 % 16), hexDigit (value / 256 % 16),
      hexDigit (value / 16 % 16), hexDigit (value % 16)] := by
  -- Each place is what is left when the lower ones are divided off.
  simp [hexDigits, Nat.div_div_eq_div_mul]

/-- The digits of a sixteen-bit unit read back as the unit. -/
private theorem unit?_hexDigits {value : Nat} (small : value < 65536) :
    unit? (hexDigit (value / 4096 % 16)) (hexDigit (value / 256 % 16))
      (hexDigit (value / 16 % 16)) (hexDigit (value % 16)) = some value := by
  -- Each place is a digit, and the places add up to the unit.
  have digit : ∀ n, hexValue? (hexDigit (n % 16)) = some (n % 16) := fun n =>
    hexValue?_hexDigit (Nat.mod_lt n (by decide))
  have sum : ((value / 4096 % 16 * 16 + value / 256 % 16) * 16 + value / 16 % 16) * 16 + value % 16
      = value := by omega
  simp [unit?, digit, sum]

/-- A character that needs no escape is taken as it stands. -/
private theorem readString_plain {start offset : Nat} {c : Char} {rest : List Char} {done : Units}
    (unquoted : c ≠ '"') (unescaped : c ≠ '\\') (printable : ¬ c.toNat < 0x20) :
    readString start (c :: rest) offset done
      = readString start rest (offset + 1) (some c :: done) := by
  -- None of the rules for marks and escapes applies.
  rw [readString]
  · simp [printable]
  all_goals simp_all

/-- A one-letter escape is read as the character it stands for. -/
private theorem readString_letter {start offset : Nat} {letter c : Char} {rest : List Char}
    {done : Units} (known : escaped? letter = some c) (notUnit : letter ≠ 'u') :
    readString start ('\\' :: letter :: rest) offset done
      = readString start rest (offset + 2) (some c :: done) := by
  -- The letter is known, and is not that of a unit.
  rw [readString]
  · simp [known]
  all_goals simp_all

/-- A unit that opens no pair is read alone, whatever follows it inside the string. -/
private theorem readString_unit {unit : Nat} {a b c d : Char} (known : unit? a b c d = some unit)
    (alone : isHighUnit unit = false) (start offset : Nat) (next : Char) (rest : List Char)
    (done : Units) :
    readString start ('\\' :: 'u' :: a :: b :: c :: d :: next :: rest) offset done
      = readString start (next :: rest) (offset + 6) (unitChar unit :: done) := by
  -- The reader looks for a second escape first, and takes the same step when there is one.
  by_cases paired : ∃ e f g h after more, next = '\\' ∧
    rest = 'u' :: e :: f :: g :: h :: after :: more
  · obtain ⟨e, f, g, h, after, more, rfl, rfl⟩ := paired
    rw [readString.eq_4]
    simp [known, alone]
  · rw [readString.eq_5]
    · simp [known]
    · intro e f g h after more isEscape isPair
      exact paired ⟨e, f, g, h, after, more, isEscape, isPair⟩

/-- Reading one written character gives that character, if the string goes on after it. -/
private theorem readString_escapeChar (c : Char) (start offset : Nat) (next : Char)
    (rest : List Char) (done : Units) :
    ∃ after, readString start (escapeChar false c ++ next :: rest) offset done
      = readString start (next :: rest) after (some c :: done) := by
  -- A known letter is read as the character that was escaped by it.
  have letter : ∀ {shown letter : Char}, (c == shown) = true → escaped? letter = some shown →
      letter ≠ 'u' → ∃ after, readString start (['\\', letter] ++ next :: rest) offset done
        = readString start (next :: rest) after (some c :: done) := by
    intro shown letter same known notUnit
    cases eq_of_beq same
    exact ⟨_, readString_letter known notUnit⟩
  -- The writer's cases are met in its own order; only control characters use four digits.
  unfold escapeChar
  split
  · rename_i quote
    exact letter quote rfl (by decide)
  split
  · rename_i slash
    exact letter slash rfl (by decide)
  split
  · rename_i feed
    exact letter feed rfl (by decide)
  split
  · rename_i carriage
    exact letter carriage rfl (by decide)
  split
  · rename_i tab
    exact letter tab rfl (by decide)
  split
  · rename_i back
    exact letter back rfl (by decide)
  split
  · rename_i form
    exact letter form rfl (by decide)
  split
  · -- A control character is far below the units that open a pair.
    rename_i control
    have small : ¬ 0xD800 ≤ c.toNat := by omega
    have alone : isHighUnit c.toNat = false := by simp [isHighUnit, small]
    have self : unitChar c.toNat = some c := by simp [unitChar, small]
    have read := readString_unit (unit?_hexDigits (by omega : c.toNat < 65536)) alone start offset
      next rest done
    rw [self] at read
    exact ⟨_, by simpa [escapeUnit, hexDigits_four] using read⟩
  · rename_i quote slash _ _ _ _ _ printable
    exact ⟨_, by
      simpa using readString_plain (by simpa using quote) (by simpa using slash) printable⟩

/-- Reading the inside of a written string up to its closing quote gives the text. -/
private theorem readString_text (text : List Char) :
    ∀ (start offset : Nat) (rest : List Char) (done : Units),
    ∃ after, readString start (text.flatMap (escapeChar false) ++ '"' :: rest) offset done
      = .ok (done.reverse ++ text.map some, ⟨rest, after⟩) := by
  -- The characters read so far pile up in front, so they stay quantified over.
  induction text with
  | nil =>
    intro start offset rest done
    exact ⟨_, by rw [List.flatMap_nil, List.nil_append, readString, List.map_nil, List.append_nil]⟩
  | cons c text ih =>
    intro start offset rest done
    -- What follows the character is never empty, since the closing quote is still to come.
    obtain ⟨next, more, follows⟩ : ∃ next more,
        text.flatMap (escapeChar false) ++ '"' :: rest = next :: more := by
      cases text.flatMap (escapeChar false) with
      | nil => exact ⟨_, _, rfl⟩
      | cons next more => exact ⟨next, more ++ '"' :: rest, rfl⟩
    obtain ⟨middle, step⟩ := readString_escapeChar c start offset next more done
    obtain ⟨after, read⟩ := ih start middle rest (some c :: done)
    rw [← follows, read] at step
    exact ⟨after, by simpa using step⟩

/-- A written string reads back as its text, and reading stops after the closing quote. -/
theorem readString_quoteString (text : String) (start offset : Nat) (rest : List Char) :
    ∃ after, readString start (text.toList.flatMap (escapeChar false) ++ '"' :: rest) offset []
      = .ok (text.toList.map some, ⟨rest, after⟩) := by
  simpa using readString_text text.toList start offset rest []

/-- A text without halves of pairs is shown as it is. -/
@[simp] theorem shownUnits_map_some (text : String) : shownUnits (text.toList.map some) = text := by
  -- Every unit is a character already.
  have same : (fun unit : Option Char => unit.getD '\ufffd') ∘ some = id := rfl
  rw [shownUnits, List.map_map, same, List.map_id, String.ofList_toList]

/-- A text without halves of pairs is not torn. -/
@[simp] theorem ofUnits_map_some (text : String) : ofUnits (text.toList.map some) = .str text := by
  -- All of them are there.
  have present : (text.toList.map some).all Option.isSome = true := by simp
  rw [ofUnits, if_pos present, shownUnits_map_some]

end SourceAtlas.Json

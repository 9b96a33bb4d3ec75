import SourceAtlas.Proofs.Assoc
import SourceAtlas.Proofs.Json.Doubles
import SourceAtlas.Proofs.Json.Strings

/-! Stored JSON text reads back as the value it came from, unless an integer in it has too many
digits, and whatever is read has distinct keys. -/

namespace SourceAtlas.Json

/-- Induction over values in which every item of an array and every field of an
object may be assumed. -/
theorem induction {motive : Json → Prop} (null : motive .null)
    (bool : ∀ value, motive (.bool value)) (int : ∀ value, motive (.int value))
    (float : ∀ value, motive (.float value)) (str : ∀ value, motive (.str value))
    (torn : ∀ shown, motive (.torn shown))
    (arr : ∀ items, (∀ item ∈ items, motive item) → motive (.arr items))
    (obj : ∀ fields, (∀ entry ∈ fields, motive entry.2) → motive (.obj fields)) (value : Json) :
    motive value :=
  -- The generated recursor goes over values, lists of them and fields at once.
  @Json.rec motive (fun items => ∀ item ∈ items, motive item)
    (fun fields => ∀ entry ∈ fields, motive entry.2) (fun entry => motive entry.2)
    null bool int float str torn arr obj (by simp) (by simp_all) (by simp) (by simp_all) (by simp)
    value

mutual

/-- What the stored text of a value is read as: of fields with one key the last value counts,
doubles are what their digits say, and torn texts what is shown of them. -/
def reread : Json → Json
  | float value => rereadDouble value
  | arr items => arr (rereadItems items)
  | obj fields => obj (Assoc.putAll [] (rereadFields fields))
  | null => null
  | bool value => bool value
  | int value => int value
  | str value => str value
  | torn shown => str shown

/-- What the items of an array are read as. -/
def rereadItems : List Json → List Json
  | [] => []
  | item :: items => reread item :: rereadItems items

/-- What the fields of an object are read as, before fields with one key are joined. -/
def rereadFields : List (String × Json) → List (String × Json)
  | [] => []
  | (key, value) :: fields => (key, reread value) :: rereadFields fields

end

/-- A gap is passed over up to the first character that is none. -/
theorem skipGap_append (gap : List Char) {c : Char} (blank : ∀ d ∈ gap, isGap d = true)
    (solid : isGap c = false) (text : List Char) (offset : Nat) :
    Place.skipGap ⟨gap ++ c :: text, offset⟩ = ⟨c :: text, offset + gap.length⟩ := by
  -- The gap is taken as a whole, and the first solid character stops it.
  have taken : (gap ++ c :: text).takeWhile isGap = gap := by
    rw [List.takeWhile_append_of_pos blank, List.takeWhile_cons_of_neg (by simp [solid]),
      List.append_nil]
  have dropped : (gap ++ c :: text).dropWhile isGap = c :: text := by
    rw [List.dropWhile_append_of_pos blank, List.dropWhile_cons_of_neg (by simp [solid])]
  simp only [Place.skipGap, taken, dropped]

/-- Line breaks of stored files are gaps. -/
private theorem isGap_lineBreak (level : Nat) : ∀ d ∈ lineBreak .stored level, isGap d = true := by
  -- A line break is a line end and blanks.
  intro d member
  simp only [lineBreak, JsonStyle.stored, List.mem_cons, List.mem_replicate] at member
  rcases member with rfl | ⟨_, rfl⟩ <;> decide

/-- A line break is passed over up to the first character that is no gap. -/
theorem skipGap_lineBreak (level : Nat) {c : Char} (solid : isGap c = false) (text : List Char)
    (offset : Nat) :
    ∃ after, Place.skipGap ⟨lineBreak .stored level ++ c :: text, offset⟩ = ⟨c :: text, after⟩ :=
  ⟨_, skipGap_append _ (isGap_lineBreak level) solid text offset⟩

/-- Where no gap stands, none is passed over. -/
theorem skipGap_none {c : Char} (solid : isGap c = false) (text : List Char) (offset : Nat) :
    Place.skipGap ⟨c :: text, offset⟩ = ⟨c :: text, offset⟩ :=
  skipGap_append [] (by simp) solid text offset

/-- A character that can start a stored value. -/
def Opens (c : Char) : Prop :=
  isGap c = false ∧ c ≠ ']' ∧ c ≠ '\x7d' ∧ c ≠ '\ufeff'

/-- A character that starts a value which is neither a string nor an array nor an object. -/
def OpensPlain (c : Char) : Prop :=
  Opens c ∧ c ≠ '"' ∧ c ≠ '[' ∧ c ≠ '\x7b'

/-- Digits can start a plain value. -/
private theorem opensPlain_of_isDigit {c : Char} (digit : c.isDigit = true) : OpensPlain c := by
  -- A digit is none of the marks and none of the gaps.
  have other : ∀ d : Char, d.isDigit = false → c ≠ d := by
    rintro d notDigit rfl
    simp [digit] at notDigit
  refine ⟨⟨?_, other _ (by decide), other _ (by decide), other _ (by decide)⟩, other _ (by decide),
    other _ (by decide), other _ (by decide)⟩
  simp [isGap, other ' ' (by decide), other '\t' (by decide), other '\n' (by decide),
    other '\r' (by decide)]

/-- Stored numbers start with a digit, a minus or a letter. -/
private theorem storedNumber_head (x : Binary64) :
    ∃ c text, (JsonStyle.storedNumber x).toList = c :: text ∧ OpensPlain c := by
  -- A finite double starts with a sign or the first digit.
  unfold JsonStyle.storedNumber
  split
  · obtain ⟨whole, fraction, exponent, shape, isWhole, _, _⟩ := isNumeral_magnitude x
    obtain ⟨c, more, rfl, digit⟩ := isWhole.head
    simp only [FloatLayout.finite, shape, String.toList_ofList]
    split
    · exact ⟨_, _, rfl, by unfold OpensPlain Opens; decide⟩
    · exact ⟨c, _, rfl, opensPlain_of_isDigit digit⟩
  · exact ⟨'n', _, rfl, by unfold OpensPlain Opens; decide⟩

/-- Written integers start with a digit or a minus. -/
private theorem intChars_head (value : Int) :
    ∃ c text, intChars value = c :: text ∧ OpensPlain c := by
  -- A negative integer starts with its sign.
  unfold intChars
  split
  · exact ⟨'-', _, rfl, by unfold OpensPlain Opens; decide⟩
  · obtain ⟨c, more, digits, digit⟩ := (isWhole_toDigits value.natAbs).head
    exact ⟨c, more, digits, opensPlain_of_isDigit digit⟩

/-- Every stored value starts with a character that can start one. -/
theorem print_head (level : Nat) (value : Json) :
    ∃ c text, print .stored level value = c :: text ∧ Opens c := by
  -- One character for each kind of value, which is none of the closing ones.
  cases value with
  | null => exact ⟨'n', _, by simp only [print]; rfl, by unfold Opens; decide⟩
  | bool value => cases value <;> exact ⟨_, _, by simp only [print]; rfl, by unfold Opens; decide⟩
  | int value =>
    obtain ⟨c, text, shape, opens, _⟩ := intChars_head value
    exact ⟨c, text, by simpa only [print] using shape, opens⟩
  | float value =>
    obtain ⟨c, text, shape, opens, _⟩ := storedNumber_head value
    exact ⟨c, text, by simpa only [print, JsonStyle.stored] using shape, opens⟩
  | str value => exact ⟨'"', _, by simp only [print, quoteString]; rfl, by unfold Opens; decide⟩
  | torn shown => exact ⟨'"', _, by simp only [print, quoteString]; rfl, by unfold Opens; decide⟩
  | arr items => cases items <;> exact ⟨'[', _, by simp only [print]; rfl, by unfold Opens; decide⟩
  | obj fields =>
    cases fields <;> exact ⟨'\x7b', _, by simp only [print]; rfl, by unfold Opens; decide⟩

/-- The digits of an array are those of its items. -/
private theorem fitsDigits_arr (items : List Json) :
    (arr items).fitsDigits = everyLeafOfItems isShort items := by
  rw [fitsDigits, everyLeaf]

/-- The digits of an object are those of its fields. -/
private theorem fitsDigits_obj (fields : List (String × Json)) :
    (obj fields).fitsDigits = everyLeafOfFields isShort fields := by
  rw [fitsDigits, everyLeaf]

/-- The digits of items, the first of them apart. -/
theorem everyLeafOfItems_isShort_cons (item : Json) (items : List Json) :
    everyLeafOfItems isShort (item :: items)
      = (item.fitsDigits && everyLeafOfItems isShort items) := by
  rw [everyLeafOfItems, fitsDigits]

/-- The digits of fields, the first of them apart. -/
theorem everyLeafOfFields_isShort_cons (key : String) (value : Json)
    (fields : List (String × Json)) :
    everyLeafOfFields isShort ((key, value) :: fields)
      = (value.fitsDigits && everyLeafOfFields isShort fields) := by
  rw [everyLeafOfFields, fitsDigits]

/-- A stored value that is read back as what rereading says, up to whatever closes it, unless an
integer in it has too many digits; then it is not read at all. -/
def ReadsBack (value : Json) : Prop :=
  ∀ level fuel offset rest, 2 * (print .stored level value).length ≤ fuel → Closes rest →
    ∃ after found, readValue fuel ⟨print .stored level value ++ rest, offset⟩
      = if value.fitsDigits then .ok (reread value, ⟨rest, after⟩) else .error found

/-- A plain value is read by the rule for plain values. -/
theorem readsBack_plain {value : Json}
    (head : ∀ level, ∃ c text, print .stored level value = c :: text ∧ OpensPlain c)
    (legible : ∀ level, Legible (print .stored level value) value.fitsDigits (reread value)) :
    ReadsBack value := by
  -- The first character rules out strings, arrays and objects.
  intro level fuel offset rest enough closes
  obtain ⟨c, text, shape, _, notString, notArray, notObject⟩ := head level
  obtain ⟨after, found, read⟩ := legible level rest closes offset
  rw [shape] at enough read ⊢
  obtain ⟨fuel, rfl⟩ : ∃ less, fuel = less + 1 :=
    ⟨fuel - 1, by simp only [List.length_cons] at enough; omega⟩
  refine ⟨after, found, ?_⟩
  rw [List.cons_append] at read ⊢
  rw [readValue]
  simpa [notString, notArray, notObject] using read

/-- A value that is written as a string is read by the rule for strings. -/
private theorem readsBack_text {value : Json} {text : String}
    (written : ∀ level, print .stored level value = quoteString false text)
    (isRead : reread value = .str text) (fits : value.fitsDigits = true) : ReadsBack value := by
  -- The quote tells a string, whose text is then read up to the closing one.
  intro level fuel offset rest enough closes
  rw [written] at enough ⊢
  simp only [quoteString, List.length_cons] at enough
  obtain ⟨fuel, rfl⟩ : ∃ less, fuel = less + 1 := ⟨fuel - 1, by omega⟩
  obtain ⟨after, read⟩ := readString_quoteString text offset (offset + 1) rest
  refine ⟨after, ⟨.extraData, 0⟩, ?_⟩
  simp only [quoteString, List.cons_append, List.append_assoc, List.nil_append]
  rw [readValue, fits, if_pos rfl, isRead]
  simp only [read, ofUnits_map_some]

/-- What follows the items of an array closes the item before it. -/
private theorem closes_printItems (level : Nat) (items : List Json) (rest : List Char) :
    Closes (printItems .stored (level + 1) items ++ (lineBreak .stored level ++ rest)) := by
  -- A comma follows, or the line end before the bracket.
  cases items with
  | nil => simp [printItems, Closes, lineBreak, JsonStyle.stored]
  | cons item items => simp [printItems, Closes]

/-- What follows the fields of an object closes the field before it. -/
private theorem closes_printFields (level : Nat) (fields : List (String × Json))
    (rest : List Char) :
    Closes (printFields .stored (level + 1) fields ++ (lineBreak .stored level ++ rest)) := by
  -- A comma follows, or the line end before the brace.
  cases fields with
  | nil => simp [printFields, Closes, lineBreak, JsonStyle.stored]
  | cons entry fields => simp [printFields, Closes]

/-- The items of an array are read from the next one on, if each of them reads back; the first that
is not read stops the reading. -/
private theorem readItems_print (level : Nat) (rest : List Char) (items : List Json) :
    ∀ (item : Json) (done : List Json) (fuel offset : Nat), ReadsBack item →
      (∀ other ∈ items, ReadsBack other) →
      2 * ((print .stored (level + 1) item).length + (printItems .stored (level + 1) items).length)
        + 1 ≤ fuel →
      ∃ after found, readItems fuel ⟨print .stored (level + 1) item ++
          (printItems .stored (level + 1) items ++ (lineBreak .stored level ++ ']' :: rest)),
            offset⟩ done
        = if item.fitsDigits && everyLeafOfItems isShort items
          then .ok (.arr (done.reverse ++ reread item :: rereadItems items), ⟨rest, after⟩)
          else .error found := by
  -- The induction is on the items to come; the one being read and those done stay quantified over.
  induction items with
  | nil =>
    intro item done fuel offset reads _ enough
    obtain ⟨fuel, rfl⟩ : ∃ less, fuel = less + 1 := ⟨fuel - 1, by omega⟩
    obtain ⟨middle, found, read⟩ := reads (level + 1) fuel offset _ (by omega)
      (closes_printItems level [] (']' :: rest))
    obtain ⟨after, skipped⟩ := skipGap_lineBreak level (by decide : isGap ']' = false) rest middle
    refine ⟨after + 1, found, ?_⟩
    rw [readItems, read]
    cases item.fitsDigits with
    | false => simp
    | true => simp [printItems, skipped, Place.advance, rereadItems, everyLeafOfItems]
  | cons next items ih =>
    intro item done fuel offset reads others enough
    obtain ⟨fuel, rfl⟩ : ∃ less, fuel = less + 1 := ⟨fuel - 1, by omega⟩
    simp only [printItems, List.length_cons, List.length_append] at enough
    obtain ⟨middle, fault, read⟩ := reads (level + 1) fuel offset _ (by omega)
      (closes_printItems level (next :: items) (']' :: rest))
    -- After the comma and the line break the next item starts.
    obtain ⟨c, text, shape, solid, _⟩ := print_head (level + 1) next
    obtain ⟨start, skipped⟩ := skipGap_lineBreak (level + 1) solid
      (text ++ (printItems .stored (level + 1) items ++ (lineBreak .stored level ++ ']' :: rest)))
      (middle + 1)
    obtain ⟨after, found, more⟩ := ih next (reread item :: done) fuel start (others next (by simp))
      (fun other member => others other (by simp [member])) (by omega)
    rw [readItems, read]
    cases item.fitsDigits with
    | false => exact ⟨after, fault, by simp⟩
    | true =>
      refine ⟨after, found, ?_⟩
      simp only [shape, List.cons_append] at more
      simp only [printItems, shape, List.cons_append, List.append_assoc, if_pos,
        skipGap_none (by decide : isGap ',' = false), Place.advance, List.drop_succ_cons,
        List.drop_zero, skipped, more]
      simp [rereadItems, everyLeafOfItems_isShort_cons]

/-- The text of one field. -/
def printField (level : Nat) (key : String) (value : Json) : List Char :=
  '"' :: (key.toList.flatMap (escapeChar false) ++ '"' :: ':' :: ' ' :: print .stored level value)

/-- A field is written as its quoted key, a colon and its value. -/
private theorem quoteString_append_print (level : Nat) (key : String) (value : Json)
    (text : List Char) :
    quoteString JsonStyle.stored.asciiOnly key ++
      (colon .stored ++ (print .stored level value ++ text))
      = printField level key value ++ text := by
  -- Keys are quoted like texts.
  simp [quoteString, colon, printField, JsonStyle.stored]

/-- One field is read up to the sign after its value, which says whether another field comes; a
value that is not read stops the reading. -/
private theorem readFields_printField (level : Nat) (key : String) {value : Json}
    (reads : ReadsBack value) {tail : List Char} (closes : Closes tail) {fuel : Nat}
    (enough : 2 * (print .stored level value).length ≤ fuel) (offset : Nat)
    (done : List (String × Json)) :
    ∃ middle found, ∀ sign text after, Place.skipGap ⟨tail, middle⟩ = ⟨sign :: text, after⟩ →
      (sign = '\x7d' → readFields (fuel + 1) ⟨printField level key value ++ tail, offset⟩ done
        = if value.fitsDigits then .ok (.obj (Assoc.put done key (reread value)), ⟨text, after + 1⟩)
          else .error found) ∧
      (sign = ',' → readFields (fuel + 1) ⟨printField level key value ++ tail, offset⟩ done
        = if value.fitsDigits
          then readFields fuel (Place.skipGap ⟨text, after + 1⟩) (Assoc.put done key (reread value))
          else .error found) := by
  -- The key is read as a string, the blank after the colon is passed over, and
  -- then the value is read.
  obtain ⟨named, readKey⟩ := readString_quoteString key offset (offset + 1)
    (':' :: ' ' :: (print .stored level value ++ tail))
  obtain ⟨middle, found, read⟩ := reads level fuel (named + 1 + 1) tail enough closes
  obtain ⟨c, inner, shape, solid, _⟩ := print_head level value
  have blank := skipGap_append [' '] (by simp [isGap]) solid (inner ++ tail) (named + 1)
  refine ⟨middle, found, ?_⟩
  intro sign text after skipped
  simp only [shape, List.cons_append, List.nil_append, List.length_singleton] at blank read readKey
  simp only [printField, shape, List.cons_append, List.append_assoc]
  rw [readFields]
  simp only [readKey, skipGap_none (by decide : isGap ':' = false), Place.advance,
    List.drop_succ_cons, List.drop_zero, blank, read, shownUnits_map_some]
  cases value.fitsDigits with
  | false => exact ⟨fun _ => rfl, fun _ => rfl⟩
  | true =>
    simp only [if_pos, skipped]
    constructor <;> rintro rfl <;> rfl

/-- The fields of an object are read from the next one on, if the value of
each of them reads back. -/
private theorem readFields_print (level : Nat) (rest : List Char) (fields : List (String × Json)) :
    ∀ (key : String) (value : Json) (done : List (String × Json)) (fuel offset : Nat),
      ReadsBack value → (∀ entry ∈ fields, ReadsBack entry.2) →
      2 * ((print .stored (level + 1) value).length
        + (printFields .stored (level + 1) fields).length) + 1 ≤ fuel →
      ∃ after found, readFields fuel ⟨printField (level + 1) key value ++
          (printFields .stored (level + 1) fields ++ (lineBreak .stored level ++ '\x7d' :: rest)),
            offset⟩ done
        = if value.fitsDigits && everyLeafOfFields isShort fields
          then .ok (.obj (Assoc.putAll done ((key, reread value) :: rereadFields fields)),
            ⟨rest, after⟩)
          else .error found := by
  -- The induction is on the fields to come, as for the items of an array.
  induction fields with
  | nil =>
    intro key value done fuel offset reads _ enough
    obtain ⟨fuel, rfl⟩ : ∃ less, fuel = less + 1 := ⟨fuel - 1, by omega⟩
    obtain ⟨middle, found, read⟩ := readFields_printField (level + 1) key reads
      (closes_printFields level [] ('\x7d' :: rest)) (by omega : _ ≤ fuel) offset done
    obtain ⟨after, skipped⟩ :=
      skipGap_lineBreak level (by decide : isGap '\x7d' = false) rest middle
    refine ⟨after + 1, found, ?_⟩
    rw [(read _ _ _ skipped).1 rfl]
    simp [rereadFields, Assoc.putAll, everyLeafOfFields]
  | cons next fields ih =>
    intro key value done fuel offset reads others enough
    obtain ⟨nextKey, nextValue⟩ := next
    obtain ⟨fuel, rfl⟩ : ∃ less, fuel = less + 1 := ⟨fuel - 1, by omega⟩
    simp only [printFields, List.length_cons, List.length_append] at enough
    obtain ⟨middle, fault, read⟩ := readFields_printField (level + 1) key reads
      (closes_printFields level ((nextKey, nextValue) :: fields) ('\x7d' :: rest))
      (by omega : _ ≤ fuel) offset done
    have comma := fun text => skipGap_none (by decide : isGap ',' = false) text middle
    -- After the comma and the line break the next field starts with a quote.
    have follows : printFields .stored (level + 1) ((nextKey, nextValue) :: fields) ++
        (lineBreak .stored level ++ '\x7d' :: rest) = ',' :: (lineBreak .stored (level + 1) ++
          (printField (level + 1) nextKey nextValue ++ (printFields .stored (level + 1) fields ++
            (lineBreak .stored level ++ '\x7d' :: rest)))) := by
      rw [← quoteString_append_print]
      simp only [printFields, List.cons_append, List.append_assoc]
    obtain ⟨start, skipped⟩ := skipGap_lineBreak (level + 1) (by decide : isGap '"' = false)
      (nextKey.toList.flatMap (escapeChar false) ++ '"' :: ':' :: ' ' ::
        (print .stored (level + 1) nextValue ++ (printFields .stored (level + 1) fields ++
          (lineBreak .stored level ++ '\x7d' :: rest)))) (middle + 1)
    obtain ⟨after, found, more⟩ :=
      ih nextKey nextValue (Assoc.put done key (reread value)) fuel start
        (others (nextKey, nextValue) (by simp))
        (fun entry member => others entry (by simp [member])) (by omega)
    rw [follows] at read ⊢
    rw [(read _ _ _ (comma _)).2 rfl]
    cases value.fitsDigits with
    | false => exact ⟨after, fault, by simp⟩
    | true =>
      refine ⟨after, found, ?_⟩
      rw [if_pos rfl]
      simp only [printField, List.cons_append, List.append_assoc] at more ⊢
      rw [skipped, more]
      simp [rereadFields, Assoc.putAll, everyLeafOfFields_isShort_cons]

/-- An array reads back if its items do. -/
private theorem readsBack_arr {items : List Json} (each : ∀ item ∈ items, ReadsBack item) :
    ReadsBack (.arr items) := by
  -- An empty array is closed at once.
  intro level fuel offset rest enough closes
  cases items with
  | nil =>
    simp only [print, List.length_cons, List.length_nil] at enough
    obtain ⟨fuel, rfl⟩ : ∃ less, fuel = less + 1 := ⟨fuel - 1, by omega⟩
    refine ⟨offset + 2, ⟨.extraData, 0⟩, ?_⟩
    simp only [print, List.cons_append, List.nil_append]
    rw [readValue, fitsDigits_arr]
    simp [Place.advance, skipGap_none (by decide : isGap ']' = false), reread, rereadItems,
      everyLeafOfItems]
  | cons item items =>
    simp only [print, List.length_cons, List.length_append] at enough
    obtain ⟨fuel, rfl⟩ : ∃ less, fuel = less + 1 := ⟨fuel - 1, by omega⟩
    -- After the bracket and the line break stands an item and not the end.
    obtain ⟨c, text, shape, solid, notEnd, _⟩ := print_head (level + 1) item
    obtain ⟨start, skipped⟩ := skipGap_lineBreak (level + 1) solid
      (text ++ (printItems .stored (level + 1) items ++ (lineBreak .stored level ++ ']' :: rest)))
      (offset + 1)
    obtain ⟨after, found, read⟩ :=
      readItems_print level rest items item [] fuel start (each item (by simp))
        (fun other member => each other (by simp [member])) (by omega)
    refine ⟨after, found, ?_⟩
    simp only [shape, List.cons_append] at read
    simp only [print, shape, List.cons_append, List.append_assoc, List.nil_append]
    rw [readValue, fitsDigits_arr, everyLeafOfItems_isShort_cons]
    simp only [Place.advance, List.drop_succ_cons, List.drop_zero, skipped]
    simpa [notEnd, reread, rereadItems] using read

/-- An object reads back if the values of its fields do. -/
private theorem readsBack_obj {fields : List (String × Json)}
    (each : ∀ entry ∈ fields, ReadsBack entry.2) :
    ReadsBack (.obj fields) := by
  -- An empty object is closed at once.
  intro level fuel offset rest enough closes
  cases fields with
  | nil =>
    simp only [print, List.length_cons, List.length_nil] at enough
    obtain ⟨fuel, rfl⟩ : ∃ less, fuel = less + 1 := ⟨fuel - 1, by omega⟩
    refine ⟨offset + 2, ⟨.extraData, 0⟩, ?_⟩
    simp only [print, List.cons_append, List.nil_append]
    rw [readValue, fitsDigits_obj]
    simp [Place.advance, skipGap_none (by decide : isGap '\x7d' = false), reread, rereadFields,
      Assoc.putAll, everyLeafOfFields]
  | cons entry fields =>
    obtain ⟨key, value⟩ := entry
    simp only [print, List.length_cons, List.length_append] at enough
    obtain ⟨fuel, rfl⟩ : ∃ less, fuel = less + 1 := ⟨fuel - 1, by omega⟩
    -- After the brace and the line break stands the quote of a key.
    obtain ⟨start, skipped⟩ := skipGap_lineBreak (level + 1) (by decide : isGap '"' = false)
      (key.toList.flatMap (escapeChar false) ++ '"' :: ':' :: ' ' ::
        (print .stored (level + 1) value ++ (printFields .stored (level + 1) fields ++
          (lineBreak .stored level ++ '\x7d' :: rest)))) (offset + 1)
    obtain ⟨after, found, read⟩ := readFields_print level rest fields key value [] fuel start
      (each (key, value) (by simp)) (fun other member => each other (by simp [member])) (by omega)
    refine ⟨after, found, ?_⟩
    simp only [print, List.cons_append, List.append_assoc, List.nil_append,
      quoteString_append_print]
    simp only [printField, List.cons_append, List.append_assoc] at read ⊢
    rw [readValue, fitsDigits_obj, everyLeafOfFields_isShort_cons]
    simp only [Place.advance, List.drop_succ_cons, List.drop_zero, skipped]
    simpa [reread, rereadFields] using read

/-- Every stored value reads back, unless an integer in it has too many digits. -/
private theorem readsBack (value : Json) : ReadsBack value := by
  -- The induction is over the value, with one rule of the reader for each kind.
  induction value using induction with
  | null =>
    refine readsBack_plain (fun _ => ⟨'n', "ull".toList, ?_, by unfold OpensPlain Opens; decide⟩)
      fun _ => ?_
    · simp only [print]
      rfl
    · simpa only [print, reread, fitsDigits, everyLeaf, isShort] using legible_words.1
  | bool value =>
    cases value with
    | false =>
      refine readsBack_plain (fun _ => ⟨'f', "alse".toList, ?_, by unfold OpensPlain Opens; decide⟩)
        fun _ => ?_
      · simp only [print]
        rfl
      · simpa only [print, reread, fitsDigits, everyLeaf, isShort] using legible_words.2.2
    | true =>
      refine readsBack_plain (fun _ => ⟨'t', "rue".toList, ?_, by unfold OpensPlain Opens; decide⟩)
        fun _ => ?_
      · simp only [print]
        rfl
      · simpa only [print, reread, fitsDigits, everyLeaf, isShort] using legible_words.2.1
  | int value =>
    exact readsBack_plain (fun _ => by simpa only [print] using intChars_head value)
      fun _ => by
        simpa only [print, reread, fitsDigits, everyLeaf, isShort] using legible_intChars value
  | float value =>
    exact readsBack_plain
      (fun _ => by simpa only [print, JsonStyle.stored] using storedNumber_head value)
      fun _ => by
        simpa only [print, JsonStyle.stored, reread, fitsDigits, everyLeaf, isShort]
          using legible_storedNumber value
  | str value =>
    refine @readsBack_text (.str value) value (fun _ => ?_) ?_ ?_
    · simp only [print, JsonStyle.stored]
    · rw [reread]
    · simp only [fitsDigits, everyLeaf, isShort]
  | torn shown =>
    refine @readsBack_text (.torn shown) shown (fun _ => ?_) ?_ ?_
    · simp only [print, JsonStyle.stored]
    · rw [reread]
    · simp only [fitsDigits, everyLeaf, isShort]
  | arr items each => exact readsBack_arr each
  | obj fields each => exact readsBack_obj each

/-- The stored text of a value is read as what rereading says, unless an integer in it has too many
digits; then it is not read. -/
private theorem readWhole_print (value : Json) :
    ∃ found, readWhole (print .stored 0 value)
      = if value.fitsDigits then .ok value.reread else .error found := by
  -- Nothing stands before the value or after it, so it is the whole text.
  obtain ⟨c, text, shape, solid, _, _, noMark⟩ := print_head 0 value
  obtain ⟨after, found, read⟩ := readsBack value 0 (2 * (print .stored 0 value).length + 2) 0 []
    (by omega) (by simp [Closes])
  rw [List.append_nil] at read
  refine ⟨found, ?_⟩
  rw [shape] at read ⊢
  simp only [readWhole, skipGap_none solid, read]
  cases value.fitsDigits <;> simp [noMark, Place.skipGap]

/-- A stored text without oversized integers is read as what rereading says. -/
theorem parseExact_render {value : Json} (fits : value.fitsDigits = true) :
    parseExact (value.render .stored) = .ok value.reread := by
  -- No integer is oversized, so the reading succeeds.
  obtain ⟨found, whole⟩ := readWhole_print value
  simp [parseExact, render, whole, fits]

/-- A stored text with an oversized integer is not read. -/
theorem parseExact_render_oversized {value : Json} (oversized : value.fitsDigits = false) :
    ∃ error, parseExact (value.render .stored) = .error error := by
  -- Some integer is oversized, so the reading fails.
  obtain ⟨found, whole⟩ := readWhole_print value
  exact ⟨_, by simp [parseExact, render, whole, oversized]; rfl⟩

mutual

/-- Whether no object at any depth has two fields of one key. -/
def keysDistinct : Json → Bool
  | arr items => keysDistinctItems items
  | obj fields => decide (Assoc.keys fields).Nodup && keysDistinctFields fields
  | _ => true

/-- Whether keys are distinct inside every item. -/
def keysDistinctItems : List Json → Bool
  | [] => true
  | item :: items => keysDistinct item && keysDistinctItems items

/-- Whether keys are distinct inside every field. -/
def keysDistinctFields : List (String × Json) → Bool
  | [] => true
  | (_, value) :: fields => keysDistinct value && keysDistinctFields fields

end

/-- A value that is stored and read without any change: keys are distinct, no number is a
double, and no text is torn. -/
def isPlain (value : Json) : Bool :=
  value.keysDistinct && (value.floatFree && value.isWhole)

/-- Keys are distinct inside all items when they are inside each. -/
theorem keysDistinctItems_iff {items : List Json} :
    keysDistinctItems items = true ↔ ∀ item ∈ items, keysDistinct item = true := by
  induction items with
  | nil => simp [keysDistinctItems]
  | cons item items ih => simp [keysDistinctItems, ih]

/-- Keys are distinct inside all fields when they are inside each. -/
theorem keysDistinctFields_iff {fields : List (String × Json)} :
    keysDistinctFields fields = true ↔ ∀ entry ∈ fields, keysDistinct entry.2 = true := by
  induction fields with
  | nil => simp [keysDistinctFields]
  | cons entry fields ih => simp [keysDistinctFields, ih]

/-- A test holds of every leaf of all items when it does in each. -/
theorem everyLeafOfItems_iff {test : Json → Bool} {items : List Json} :
    everyLeafOfItems test items = true ↔ ∀ item ∈ items, everyLeaf test item = true := by
  induction items with
  | nil => simp [everyLeafOfItems]
  | cons item items ih => simp [everyLeafOfItems, ih]

/-- A test holds of every leaf of all fields when it does in each. -/
theorem everyLeafOfFields_iff {test : Json → Bool} {fields : List (String × Json)} :
    everyLeafOfFields test fields = true ↔ ∀ entry ∈ fields, everyLeaf test entry.2 = true := by
  induction fields with
  | nil => simp [everyLeafOfFields]
  | cons entry fields ih => simp [everyLeafOfFields, ih]

/-- An array is plain iff its items are. -/
theorem isPlain_arr_iff {items : List Json} :
    (arr items).isPlain = true ↔ ∀ item ∈ items, item.isPlain = true := by
  -- Each of the three tests goes down to the items.
  simp only [isPlain, keysDistinct, floatFree, isWhole, everyLeaf, Bool.and_eq_true,
    keysDistinctItems_iff, everyLeafOfItems_iff]
  exact ⟨fun all item member => ⟨all.1 item member, all.2.1 item member, all.2.2 item member⟩,
    fun each => ⟨fun item member => (each item member).1, fun item member => (each item member).2.1,
      fun item member => (each item member).2.2⟩⟩

/-- An object is plain iff its keys are distinct and the values of its fields are plain. -/
theorem isPlain_obj_iff {fields : List (String × Json)} :
    (obj fields).isPlain = true ↔
      (Assoc.keys fields).Nodup ∧ ∀ entry ∈ fields, entry.2.isPlain = true := by
  -- Two of the three tests go down to the fields, and the first also looks at the keys.
  simp only [isPlain, keysDistinct, floatFree, isWhole, everyLeaf, Bool.and_eq_true,
    keysDistinctFields_iff, everyLeafOfFields_iff, decide_eq_true_eq]
  constructor
  · rintro ⟨⟨distinct, inner⟩, free, whole⟩
    exact ⟨distinct, fun entry member =>
      ⟨inner entry member, free entry member, whole entry member⟩⟩
  · rintro ⟨distinct, each⟩
    exact ⟨⟨distinct, fun entry member => (each entry member).1⟩,
      fun entry member => (each entry member).2.1, fun entry member => (each entry member).2.2⟩

/-- Items are read back one by one. -/
theorem rereadItems_eq_map (items : List Json) : rereadItems items = items.map reread := by
  induction items with
  | nil => rfl
  | cons item items ih => simp [rereadItems, ih]

/-- Fields are read back one by one. -/
theorem rereadFields_eq_map (fields : List (String × Json)) :
    rereadFields fields = fields.map fun entry => (entry.1, reread entry.2) := by
  induction fields with
  | nil => rfl
  | cons entry fields ih => simp [rereadFields, ih]

/-- Rereading keeps the keys of fields. -/
@[simp] theorem keys_rereadFields (fields : List (String × Json)) :
    Assoc.keys (rereadFields fields) = Assoc.keys fields := by
  -- Only the values are changed.
  simp [rereadFields_eq_map, Assoc.keys]

/-- A plain value is read back as it was. -/
theorem reread_eq_self {value : Json} (plain : value.isPlain = true) : value.reread = value := by
  -- The induction is over the value, in which doubles and torn texts do not occur.
  induction value using induction with
  | null | bool | int | str => rfl
  | float value => simp [isPlain, floatFree, everyLeaf, isDouble] at plain
  | torn shown => simp [isPlain, isWhole, everyLeaf, isTorn] at plain
  | arr items each =>
    have inner := isPlain_arr_iff.mp plain
    have same : items.map reread = items := by
      rw [List.map_congr_left (g := id) fun item member => each item member (inner item member),
        List.map_id]
    rw [reread, rereadItems_eq_map, same]
  | obj fields each =>
    -- Fields with distinct keys are put one behind the other, as they stand.
    obtain ⟨distinct, inner⟩ := isPlain_obj_iff.mp plain
    have same : rereadFields fields = fields := by
      rw [rereadFields_eq_map, List.map_congr_left (g := id) fun entry member => by
        rw [each entry member (inner entry member)]; rfl, List.map_id]
    rw [reread, same, Assoc.putAll_of_nodup (by simpa using distinct), List.nil_append]

/-- A field under a new or known key keeps the keys of an object distinct. -/
private theorem keysDistinct_put {done : Assoc Json} {value : Json}
    (sofar : (obj done).keysDistinct = true) (distinct : value.keysDistinct = true) (key : String) :
    (obj (done.put key value)).keysDistinct = true := by
  -- A known key keeps its place and a new one goes to the end.
  simp only [keysDistinct, Bool.and_eq_true, decide_eq_true_eq, keysDistinctFields_iff] at sofar ⊢
  refine ⟨Assoc.nodup_keys_put sofar.1 key value, fun entry member => ?_⟩
  rcases Assoc.mem_put member with old | rfl
  · exact sofar.2 entry old
  · exact distinct

/-- What is read as a plain value has no keys. -/
private theorem keysDistinct_of_readPlain {place after : Place} {value : Json}
    (read : readPlain place = .ok (value, after)) : value.keysDistinct = true := by
  -- It is a word or a number.
  unfold readPlain at read
  split at read
  · -- Every word is a value without parts.
    rename_i word found isWord
    cases read
    have known : ∀ entry ∈ wordValues, entry.2.keysDistinct = true := by decide
    exact known _ (List.mem_of_find?_eq_some isWord)
  · unfold readNumber at read
    dsimp only at read
    split at read
    · cases read
    · split at read
      · split at read
        · cases read
        · cases read
          rfl
      · cases read
        rfl

/-- What is read has distinct keys: of fields with one key the last value counts. The three readers
call each other with less fuel. -/
private theorem keysDistinct_of_reading (fuel : Nat) :
    (∀ place value after, readValue fuel place = .ok (value, after) → value.keysDistinct = true) ∧
    (∀ place done value after, (arr done).keysDistinct = true →
      readItems fuel place done = .ok (value, after) → value.keysDistinct = true) ∧
    (∀ place done value after, (obj done).keysDistinct = true →
      readFields fuel place done = .ok (value, after) → value.keysDistinct = true) := by
  -- The induction is on the fuel, over all three readers at once.
  induction fuel with
  | zero =>
    refine ⟨fun place value after read => ?_, fun place done value after _ read => ?_,
      fun place done value after _ read => ?_⟩
    · rw [readValue] at read
      cases read
    · rw [readItems] at read
      cases read
    · rw [readFields] at read
      cases read
  | succ fuel ih =>
    obtain ⟨ofValue, ofItems, ofFields⟩ := ih
    refine ⟨fun place value after read => ?_, fun place done value after sofar read => ?_,
      fun place done value after sofar read => ?_⟩
    · rw [readValue] at read
      split at read
      · split at read
        · cases read
        · cases read
          unfold ofUnits
          split <;> rfl
      · dsimp only at read
        split at read
        · cases read
          rfl
        · exact ofItems _ _ _ _ rfl read
      · dsimp only at read
        split at read
        · cases read
          rfl
        · exact ofFields _ _ _ _ rfl read
      · exact keysDistinct_of_readPlain read
    · rw [readItems] at read
      split at read
      · cases read
      · rename_i item next isItem
        have more : (arr (item :: done)).keysDistinct = true := by
          rw [keysDistinct, keysDistinctItems, ofValue _ _ _ isItem]
          exact sofar
        dsimp only at read
        split at read
        · cases read
          rw [keysDistinct, keysDistinctItems_iff] at more ⊢
          exact fun one member => more one (List.mem_reverse.mp member)
        · exact ofItems _ _ _ _ more read
        · cases read
    · rw [readFields] at read
      split at read
      · split at read
        · cases read
        · rename_i key next isKey
          dsimp only at read
          split at read
          · split at read
            · cases read
            · rename_i field last isField
              have more := keysDistinct_put sofar (ofValue _ _ _ isField) (shownUnits key)
              split at read
              · cases read
                exact more
              · exact ofFields _ _ _ _ more read
              · cases read
          · cases read
      · cases read

/-- The value of a text has distinct keys in every object. -/
theorem keysDistinct_of_parseExact {text : String} {value : Json}
    (parsed : parseExact text = .ok value) : value.keysDistinct = true := by
  -- The whole text is one value.
  unfold parseExact at parsed
  split at parsed
  · rename_i found whole
    cases parsed
    unfold readWhole at whole
    split at whole
    · cases whole
    · split at whole
      · cases whole
      · rename_i read
        dsimp only at whole
        split at whole
        · cases whole
          exact (keysDistinct_of_reading _).1 _ _ _ read
        · cases whole
  · cases parsed

/-- The items of an array are mended one by one. -/
private theorem mendedItems_eq_map (items : List Json) : mendedItems items = items.map mended := by
  induction items with
  | nil => rfl
  | cons item items ih => simp [mendedItems, ih]

/-- The fields of an object are mended one by one. -/
private theorem mendedFields_eq_map (fields : List (String × Json)) :
    mendedFields fields = fields.map fun entry => (entry.1, mended entry.2) := by
  induction fields with
  | nil => rfl
  | cons entry fields ih => simp [mendedFields, ih]

/-- A value without torn texts is shown as it is. -/
theorem mended_eq_self {value : Json} (whole : value.isWhole = true) : value.mended = value := by
  -- The induction is over the value, in which torn texts do not occur.
  induction value using induction with
  | null | bool | int | float | str => rfl
  | torn shown => simp [isWhole, everyLeaf, isTorn] at whole
  | arr items each =>
    rw [isWhole, everyLeaf, everyLeafOfItems_iff] at whole
    rw [mended, mendedItems_eq_map,
      List.map_congr_left (g := id) fun item member => each item member (whole item member),
      List.map_id]
  | obj fields each =>
    rw [isWhole, everyLeaf, everyLeafOfFields_iff] at whole
    rw [mended, mendedFields_eq_map, List.map_congr_left (g := id) fun entry member => by
      rw [each entry member (whole entry member)]; rfl, List.map_id]

/-- The stored text of a plain value is read as the value, also where torn texts are mended. -/
theorem parse_render {value : Json} (plain : value.isPlain = true)
    (fits : value.fitsDigits = true) : parse (value.render .stored) = .ok value := by
  -- A plain value has no torn text that could be mended.
  have whole : value.isWhole = true := by
    simp only [isPlain, Bool.and_eq_true] at plain
    exact plain.2.2
  rw [parse, parseExact_render fits, reread_eq_self plain, Except.map, mended_eq_self whole]

end SourceAtlas.Json

import Mathlib.Data.List.Basic
import SkaterLedger.Proofs.Csv.Documents
import SkaterLedger.Proofs.Text.Search
import SkaterLedger.Proofs.Text.Utf8

/-!
# Reading bytes and reading characters

A file is read byte by byte, and its fields are decoded afterwards. For a text in UTF-8 this gives
the fields that the characters give (`map_records_bytesOfString`): all marks are single bytes, and
no byte of another character is one of them.
-/

namespace SkaterLedger.Csv

/-! ## Marks and bytes -/

/-- A byte below 128 is the character that it belongs to. -/
theorem toNat_of_mem_encodeChar {b : UInt8} {c : Char} (hb : b ∈ Text.encodeChar c)
    (hlow : b.toNat < 0x80) : b.toNat = c.toNat := by
  have hlt := Text.char_toNat_lt c
  unfold Text.encodeChar at hb
  dsimp only at hb
  generalize c.toNat = n at *
  split_ifs at hb <;>
    simp only [List.mem_cons, List.not_mem_nil, or_false] at hb <;>
    rcases hb with rfl | rfl | rfl | rfl <;>
    rw [Text.toNat_byte (by omega)] at hlow ⊢ <;>
    omega

/-- The bytes of a character that is no mark are no marks. -/
theorem plain_of_mem_encodeChar {b : UInt8} {c : Char} (hc : Marks.ofChars.Plain c)
    (hb : b ∈ Text.encodeChar c) : Marks.ofBytes.Plain b := by
  have hne {m : UInt8} {d : Char} (hm : m.toNat < 0x80) (hd : m.toNat = d.toNat) (hcd : c ≠ d) :
      b ≠ m := by
    rintro rfl
    exact hcd (Char.toNat_inj.mp ((toNat_of_mem_encodeChar hb hm).symm.trans hd))
  obtain ⟨hcomma, hquote, hend⟩ := hc
  unfold Marks.endsLine at hend
  rw [Bool.or_eq_false_iff, beq_eq_false_iff_ne, beq_eq_false_iff_ne] at hend
  refine ⟨hne (by decide) rfl hcomma, hne (by decide) rfl hquote, ?_⟩
  unfold Marks.endsLine
  rw [Bool.or_eq_false_iff, beq_eq_false_iff_ne, beq_eq_false_iff_ne]
  exact ⟨hne (by decide) rfl hend.1, hne (by decide) rfl hend.2⟩

/-- A text that starts with another character is not shortened. -/
theorem dropByteOrderMark_of_head?_ne {cs : List Char} (h : cs.head? ≠ some '\uFEFF') :
    Marks.ofChars.dropByteOrderMark cs = cs := by
  cases cs with
  | nil => rfl
  | cons c cs =>
    have hne : '\uFEFF' ≠ c := fun hc => h (congrArg some hc.symm)
    exact if_neg (by rw [Marks.ofChars, Text.isPrefixOf_cons_of_ne hne]; decide)

/-- A text starts with the bytes of a byte order mark if it starts with the character. -/
theorem dropByteOrderMark_encode (cs : List Char) :
    Marks.ofBytes.dropByteOrderMark (Text.encode cs) =
      Text.encode (Marks.ofChars.dropByteOrderMark cs) := by
  cases cs with
  | nil => rfl
  | cons c cs =>
    have hcons : Text.encode (c :: cs) = Text.encodeChar c ++ Text.encode cs := List.flatMap_cons
    by_cases hc : c = '\uFEFF'
    · rw [hcons, hc]
      rfl
    · have hchars : Marks.ofChars.dropByteOrderMark (c :: cs) = c :: cs :=
        dropByteOrderMark_of_head?_ne fun h => hc (Option.some.inj h)
      have hbytes : Marks.ofBytes.byteOrderMark.isPrefixOf (Text.encode (c :: cs)) = false := by
        rw [Bool.eq_false_iff, ne_eq, List.isPrefixOf_iff_prefix]
        rintro ⟨rest, hrest⟩
        -- The character is decoded from its own bytes, and from the same bytes as a mark.
        have hmark := Text.charAt?_encodeChar '\uFEFF' rest
        have hread := Text.charAt?_encodeChar c (Text.encode cs)
        rw [← hcons, ← hrest] at hread
        have hsame := hread.symm.trans hmark
        rw [Option.some.injEq, Prod.mk.injEq] at hsame
        exact hc hsame.1
      rw [hchars, Marks.dropByteOrderMark, hbytes]
      rfl

/-! ## Reading -/

/-- The bytes of the fields of some records. -/
def encodeRecords (records : List (List (List Char))) : List (List (List UInt8)) :=
  records.map (·.map Text.encode)

/-- A character in front of a field is its bytes in front of the field's. -/
theorem encodeRecords_addSymbol (c : Char) (records : List (List (List Char))) :
    encodeRecords (addSymbol c records) = addText (Text.encodeChar c) (encodeRecords records) := by
  have hnone (bs : List UInt8) {records : List (List (List UInt8))}
      (h : ∀ b, addSymbol b records = records) : addText bs records = records := by
    induction bs with
    | nil => rfl
    | cons b bs ih => exact (congrArg (addSymbol b) ih).trans (h b)
  match records with
  | [] => exact (hnone _ fun _ => rfl).symm
  | [] :: records => exact (hnone _ fun _ => rfl).symm
  | (field :: fields) :: records =>
    unfold encodeRecords
    rw [List.map_cons, List.map_cons, addText_cons]
    rfl

/-- An empty field stays one. -/
theorem encodeRecords_addField (records : List (List (List Char))) :
    encodeRecords (addField records) = addField (encodeRecords records) := by
  cases records <;> rfl

/-- A mark is a single byte, on which the readers take the same step. -/
theorem recordsFrom_encode_cons {b : UInt8} {c : Char} {cs : List Char}
    (hbyte : Text.encodeChar c = [b])
    (hcomma : (b == Marks.ofBytes.comma) = (c == Marks.ofChars.comma))
    (hquote : (b == Marks.ofBytes.quote) = (c == Marks.ofChars.quote))
    (hend : Marks.ofBytes.endsLine b = Marks.ofChars.endsLine c)
    (hcs : ∀ place, recordsFrom .ofBytes place (Text.encode cs) =
      encodeRecords (recordsFrom .ofChars place cs)) (place : Place) :
    recordsFrom .ofBytes place (Text.encode (c :: cs)) =
      encodeRecords (recordsFrom .ofChars place (c :: cs)) := by
  have hcons : Text.encode (c :: cs) = b :: Text.encode cs := by
    unfold Text.encode
    rw [List.flatMap_cons, hbyte]
    rfl
  have hsymbol (records : List (List (List Char))) :
      encodeRecords (addSymbol c records) = addSymbol b (encodeRecords records) := by
    rw [encodeRecords_addSymbol, hbyte]
    rfl
  have hblank (records : List (List (List Char))) :
      encodeRecords ([[]] :: records) = [[]] :: encodeRecords records := rfl
  rw [hcons]
  cases place <;>
    simp only [recordsFrom, hcomma, hquote, hend, hcs, apply_ite encodeRecords, hsymbol, hblank,
      encodeRecords_addField]

/-- From every place the bytes of a text are read as the text. -/
theorem recordsFrom_encode (place : Place) (cs : List Char) :
    recordsFrom .ofBytes place (Text.encode cs) =
      encodeRecords (recordsFrom .ofChars place cs) := by
  induction cs generalizing place with
  | nil => cases place <;> rfl
  | cons c cs ih =>
    by_cases hplain : Marks.ofChars.Plain c
    · have hcons : Text.encode (c :: cs) = Text.encodeChar c ++ Text.encode cs := List.flatMap_cons
      rw [hcons, recordsFrom_append_of_plain place (Text.encodeChar_ne_nil c)
        (fun b hb => plain_of_mem_encodeChar hplain hb), recordsFrom_cons_of_plain place hplain,
        encodeRecords_addSymbol, ih]
    · have hmark : c = ',' ∨ c = '"' ∨ c = '\n' ∨ c = '\r' := by
        by_contra hnone
        rw [not_or, not_or, not_or] at hnone
        refine hplain ⟨hnone.1, hnone.2.1, ?_⟩
        simpa [Marks.endsLine, Marks.ofChars] using hnone.2.2
      rcases hmark with rfl | rfl | rfl | rfl <;>
        exact recordsFrom_encode_cons rfl rfl rfl rfl ih place

/-- Reading the bytes of a text gives the bytes of its fields. -/
theorem records_encode (cs : List Char) :
    records .ofBytes (Text.encode cs) = encodeRecords (records .ofChars cs) := by
  unfold records
  rw [dropByteOrderMark_encode, recordsFrom_encode]

/-- The fields that are decoded from the bytes of a text are its fields. -/
theorem map_records_bytesOfString (s : String) :
    (records .ofBytes (Text.bytesOfString s)).map (·.map Text.stringOfBytes?) =
      (records .ofChars s.toList).map (·.map fun cs => some (String.ofList cs)) := by
  have hfield (cs : List Char) :
      Text.stringOfBytes? (Text.encode cs) = some (String.ofList cs) := by
    have hread := Text.stringOfBytes?_bytesOfString (String.ofList cs)
    rwa [Text.bytesOfString, String.toList_ofList] at hread
  unfold Text.bytesOfString
  rw [records_encode, encodeRecords, List.map_map]
  refine List.map_congr_left fun record _ => ?_
  simp [hfield]

end SkaterLedger.Csv

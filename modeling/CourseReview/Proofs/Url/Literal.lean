import CourseReview.Url.Path
import Mathlib.Data.List.Basic

/-!
# Texts as segments

A text that is to be one segment of a path is percent-encoded, and what is encoded is chosen so that nothing
in the segment is read as anything else.

* Decoding undoes encoding when the percent sign is among the characters encoded
  (`percentDecode?_percentEncode`).
* An encoded text is a segment that means the place it stands at, or the one above, only if it is one of the
  two texts `.` and `..` (`isOrdinary_encodeKey`): every spelling of these segments decodes to them
  (`percentDecode?_of_isSingleDot`, `percentDecode?_of_isDoubleDot`).
* No slash stands in an encoded text (`slash_notMem_encodeKey`).
-/

namespace CourseReview.Url

open Text (isHexDigit digitValue numberOf)

variable {inSet : Char → Bool} {s k : String}

/-! ## 1. Decoding -/

/-- The digits that encoding writes are hexadecimal digits with the value that they stand for. -/
theorem hexDigit_spec {n : Nat} (h : n < 16) :
    isHexDigit (hexDigit n) = true ∧ digitValue (hexDigit n) = n := by
  have hall : ∀ n : Fin 16, isHexDigit (hexDigit n) = true ∧ digitValue (hexDigit n) = n := by decide
  exact hall ⟨n, h⟩

/-- A byte is read from its two digits. -/
theorem hexByte?_hexDigits (b : UInt8) :
    hexByte? (hexDigit (b.toNat / 16)) (hexDigit (b.toNat % 16)) = some b := by
  have hb : b.toNat < 256 := b.toNat_lt
  obtain ⟨hhigh, hhigh'⟩ := hexDigit_spec (show b.toNat / 16 < 16 by omega)
  obtain ⟨hlow, hlow'⟩ := hexDigit_spec (show b.toNat % 16 < 16 by omega)
  have hnumber : numberOf 16 [hexDigit (b.toNat / 16), hexDigit (b.toNat % 16)] = b.toNat := by
    simp only [numberOf, List.foldl_cons, List.foldl_nil, hhigh', hlow']
    omega
  rw [hexByte?, hhigh, hlow, Bool.and_self, if_pos rfl, hnumber, UInt8.ofNat_toNat]

theorem decodeBytes_encodeByte (b : UInt8) (rest : List Char) :
    decodeBytes (encodeByte b ++ rest) = b :: decodeBytes rest := by
  rw [encodeByte, List.cons_append, List.cons_append, List.cons_append, List.nil_append, decodeBytes,
    hexByte?_hexDigits]

theorem decodeBytes_encodeBytes (bs : List UInt8) (rest : List Char) :
    decodeBytes (bs.flatMap encodeByte ++ rest) = bs ++ decodeBytes rest := by
  induction bs with
  | nil => rfl
  | cons b bs ih =>
    rw [List.flatMap_cons, List.append_assoc, decodeBytes_encodeByte, ih, List.cons_append]

/-- A character that is no percent sign stands for itself. -/
theorem decodeBytes_cons {c : Char} (h : c ≠ '%') (rest : List Char) :
    decodeBytes (c :: rest) = String.utf8EncodeChar c ++ decodeBytes rest := by
  rw [decodeBytes]
  rintro c' d rest' rfl
  exact absurd rfl h

/-- **One character**, encoded or not, is read as the bytes that it has. -/
theorem decodeBytes_encodeChar (hpercent : inSet '%' = true) (c : Char) (rest : List Char) :
    decodeBytes (encodeChar inSet c ++ rest) = String.utf8EncodeChar c ++ decodeBytes rest := by
  rw [encodeChar]
  cases hc : inSet c with
  | true => rw [if_pos rfl, decodeBytes_encodeBytes]
  | false =>
    have hne : c ≠ '%' := by
      rintro rfl
      rw [hpercent] at hc
      cases hc
    rw [if_neg Bool.false_ne_true, List.singleton_append, decodeBytes_cons hne]

theorem decodeBytes_encodeChars (hpercent : inSet '%' = true) (cs : List Char) :
    decodeBytes (cs.flatMap (encodeChar inSet)) = cs.flatMap String.utf8EncodeChar := by
  induction cs with
  | nil => rfl
  | cons c cs ih => rw [List.flatMap_cons, decodeBytes_encodeChar hpercent, ih, List.flatMap_cons]

/-- **Decoding undoes encoding.** -/
theorem percentDecode?_percentEncode (hpercent : inSet '%' = true) (cs : List Char) :
    percentDecode? (percentEncode inSet cs).toList = some (String.ofList cs) := by
  have hbytes : ByteArray.mk (cs.flatMap String.utf8EncodeChar).toArray = cs.utf8Encode := by
    rw [List.utf8Encode]
    apply ByteArray.ext
    simp
  rw [percentDecode?, percentEncode, String.toList_ofList, decodeBytes_encodeChars hpercent, hbytes,
    String.fromUTF8?, dif_pos ByteArray.isValidUTF8_utf8Encode]
  rfl

/-! ## 2. Segments that mean another place -/

/-- A character in small letters is itself or comes from its capital. -/
theorem eq_or_capital_of_toLower {c d : Char} (h : c.toLower = d) :
    c = d ∨ c.toNat + 32 = d.toNat ∧ 65 ≤ c.toNat ∧ c.toNat ≤ 90 := by
  unfold Char.toLower at h
  split at h
  · rename_i hcapital
    refine Or.inr ⟨?_, hcapital.1, hcapital.2⟩
    have hle : c.toNat ≤ 90 := hcapital.2
    rw [← h]
    change c.toNat + 32 = (c.val + 32).toNat
    rw [UInt32.toNat_add]
    change c.toNat + 32 = (c.toNat + 32) % 2 ^ 32
    omega
  · exact Or.inl h

/-- Each spelling of a dot is read as one. -/
theorem decodeBytes_dot {l : List Char}
    (h : l.map Char.toLower = ['.'] ∨ l.map Char.toLower = ['%', '2', 'e']) (rest : List Char) :
    decodeBytes (l ++ rest) = 0x2E :: decodeBytes rest := by
  have hsame : ∀ c d : Char, d.toNat < 97 → c.toLower = d → c = d := by
    intro c d hd h
    rcases eq_or_capital_of_toLower h with h | ⟨hc, hc', -⟩
    · exact h
    · omega
  rcases h with h | h
  · obtain ⟨c, rfl, hc⟩ := List.map_eq_singleton_iff.mp h
    obtain rfl := hsame c '.' (by decide) hc
    rw [List.singleton_append, decodeBytes_cons (by decide)]
    rfl
  · obtain ⟨a, l, rfl, ha, h⟩ := List.map_eq_cons_iff.mp h
    obtain ⟨b, l, rfl, hb, h⟩ := List.map_eq_cons_iff.mp h
    obtain ⟨c, rfl, hc⟩ := List.map_eq_singleton_iff.mp h
    obtain rfl := hsame a '%' (by decide) ha
    obtain rfl := hsame b '2' (by decide) hb
    have hc : c = 'e' ∨ c = 'E' := by
      rcases eq_or_capital_of_toLower hc with hc | ⟨hc, -, -⟩
      · exact Or.inl hc
      · refine Or.inr (Char.toNat_inj.mp ?_)
        have he : 'e'.toNat = 101 := rfl
        have hE : 'E'.toNat = 69 := rfl
        omega
    rcases hc with rfl | rfl <;> rfl

/-- A segment that means the place it stands at decodes to a dot. -/
theorem percentDecode?_of_isSingleDot (h : isSingleDot s = true) : percentDecode? s.toList = some "." := by
  have hlower : s.toLower = s.map Char.toLower := rfl
  have hdot : s.toList.map Char.toLower = ['.'] ∨ s.toList.map Char.toLower = ['%', '2', 'e'] := by
    rw [← String.toList_map]
    simpa [isSingleDot, hlower, ← String.toList_inj] using h
  have hbytes := decodeBytes_dot hdot []
  rw [List.append_nil] at hbytes
  rw [percentDecode?, hbytes]
  rfl

/-- A segment that means the one above decodes to two dots. -/
theorem percentDecode?_of_isDoubleDot (h : isDoubleDot s = true) :
    percentDecode? s.toList = some ".." := by
  have hlower : s.toLower = s.map Char.toLower := rfl
  have hdots : ∃ a b : List Char, s.toList.map Char.toLower = a ++ b ∧
      (a = ['.'] ∨ a = ['%', '2', 'e']) ∧ (b = ['.'] ∨ b = ['%', '2', 'e']) := by
    rw [← String.toList_map]
    simp only [isDoubleDot, hlower, List.contains_cons, List.contains_nil, Bool.or_false,
      Bool.or_eq_true, beq_iff_eq, ← String.toList_inj] at h
    rcases h with h | h | h | h
    · exact ⟨['.'], ['.'], h, Or.inl rfl, Or.inl rfl⟩
    · exact ⟨['.'], ['%', '2', 'e'], h, Or.inl rfl, Or.inr rfl⟩
    · exact ⟨['%', '2', 'e'], ['.'], h, Or.inr rfl, Or.inl rfl⟩
    · exact ⟨['%', '2', 'e'], ['%', '2', 'e'], h, Or.inr rfl, Or.inr rfl⟩
  obtain ⟨a, b, hab, ha, hb⟩ := hdots
  obtain ⟨l, l', hl, rfl, rfl⟩ := List.map_eq_append_iff.mp hab
  have hbytes := decodeBytes_dot hb []
  rw [List.append_nil] at hbytes
  rw [percentDecode?, hl, decodeBytes_dot ha, hbytes]
  rfl

/-! ## 3. Literal segments -/

/-- A text as a segment in the path of a special scheme. -/
def encodeKey (k : String) : String :=
  percentEncode inSpecialSegmentSet k.toList

/-- **The text is got back** from the segment. -/
theorem percentDecode?_encodeKey (k : String) : percentDecode? (encodeKey k).toList = some k := by
  rw [encodeKey, percentDecode?_percentEncode rfl, String.ofList_toList]

/-- The segment means neither the place it stands at nor the one above. -/
structure IsOrdinary (segment : String) : Prop where
  single : isSingleDot segment = false
  double : isDoubleDot segment = false

/-- **The segment means another place only if the text is a dot or two.** -/
theorem isOrdinary_encodeKey (hdot : k ≠ ".") (hdots : k ≠ "..") : IsOrdinary (encodeKey k) := by
  have hk := percentDecode?_encodeKey k
  constructor
  · refine Bool.eq_false_iff.mpr fun h => hdot ?_
    rw [percentDecode?_of_isSingleDot h] at hk
    exact (Option.some.inj hk).symm
  · refine Bool.eq_false_iff.mpr fun h => hdots ?_
    rw [percentDecode?_of_isDoubleDot h] at hk
    exact (Option.some.inj hk).symm

theorem isOrdinary_empty : IsOrdinary "" :=
  isOrdinary_encodeKey (k := "") (by decide) (by decide)

/-- No slash stands in the segment. -/
theorem slash_notMem_encodeKey (k : String) : '/' ∉ (encodeKey k).toList := by
  intro h
  rw [encodeKey, percentEncode, String.toList_ofList] at h
  obtain ⟨c, -, hc⟩ := List.mem_flatMap.mp h
  rw [encodeChar] at hc
  split at hc
  · obtain ⟨b, -, hb⟩ := List.mem_flatMap.mp hc
    have hdigit : ∀ n < 16, '/' ≠ hexDigit n := by decide
    have hlt : b.toNat < 256 := b.toNat_lt
    rw [encodeByte] at hb
    simp only [List.mem_cons, List.not_mem_nil, or_false] at hb
    rcases hb with hb | hb | hb
    · exact absurd hb (by decide)
    · exact hdigit _ (by omega) hb
    · exact hdigit _ (by omega) hb
  · rename_i hset
    rw [List.mem_singleton] at hc
    subst hc
    exact hset rfl

/-- A text without characters of the class is encoded as it is. -/
theorem percentEncode_eq_ofList {cs : List Char} (h : ∀ c ∈ cs, inSet c = false) :
    percentEncode inSet cs = String.ofList cs := by
  have hid : cs.flatMap (encodeChar inSet) = cs.flatMap fun c => [c] :=
    List.flatMap_congr fun c hc => by rw [encodeChar, h c hc, if_neg Bool.false_ne_true]
  rw [percentEncode, hid, List.flatMap_singleton']

end CourseReview.Url

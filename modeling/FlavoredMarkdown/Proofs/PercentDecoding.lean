import FlavoredMarkdown.Proofs.SafeUrl
import FlavoredMarkdown.Text.Utf8

/-!
# What a URL means after escaping

A URL stands for bytes: each percent sign with two hexadecimal digits behind it is the byte of that
number, and every other byte is itself. Escaping a URL for an attribute (`escape_href`) leaves percent
signs alone, so a stray one could take digits from the escape of the character behind it, or an escape
could lose its digits. Neither happens: escapes begin with a percent sign, which is no digit, and what
is escaped is no digit either. So the same percent signs have digits behind them as before.

* Entities come back first: an attribute is read before its URL is. Every ampersand in an escaped URL
  begins one of two entities, so readers that also know others read the same.

Results:
* `Escaping.percentDecoded_eq`: bytes that are no digits and no percent signs can be escaped without
  changing what is read.
* `escaping_bareHrefChar`: escaping a URL does this to its UTF-8 bytes.
* **`href_meaning`**: an escaped URL stands for the same bytes, and escaping it again changes nothing.
-/

namespace FlavoredMarkdown.Url

open Text

/-! ## Reading escapes -/

/-- The value of a byte that is a hexadecimal digit in either case. -/
def hexDigit? (b : UInt8) : Option UInt8 :=
  if 0x30 ≤ b ∧ b ≤ 0x39 then some (b - 0x30)
  else if 0x41 ≤ b ∧ b ≤ 0x46 then some (b - 0x37)
  else if 0x61 ≤ b ∧ b ≤ 0x66 then some (b - 0x57)
  else none

/-- The byte that the two digits at the front stand for. -/
def hexByte? : List UInt8 → Option UInt8
  | high :: low :: _ => (hexDigit? high).bind fun h => (hexDigit? low).map fun l => 16 * h + l
  | _ => none

/-- Reads the escapes of some bytes, leaving out the `skip` bytes that belong to the last one. -/
def percentDecodedFrom (skip : Nat) : List UInt8 → List UInt8
  | [] => []
  | b :: rest =>
    match skip with
    | skip + 1 => percentDecodedFrom skip rest
    | 0 =>
      match if b = 0x25 then hexByte? rest else none with
      | some value => value :: percentDecodedFrom 2 rest
      | none => b :: percentDecodedFrom 0 rest

/-- The bytes that some bytes stand for, percent escapes read from the left. -/
def percentDecoded (bytes : List UInt8) : List UInt8 := percentDecodedFrom 0 bytes

/-! ## Writing escapes -/

/-- A byte that neither begins an escape nor goes on with one. -/
def IsApart (b : UInt8) : Prop := b ≠ 0x25 ∧ hexDigit? b = none

/-- `Escaping xs ys`: in `xs` some of the bytes `ys` are escaped, but no digits and no percent signs. -/
inductive Escaping : List UInt8 → List UInt8 → Prop
  | nil : Escaping [] []
  | keep (b : UInt8) {xs ys : List UInt8} (h : Escaping xs ys) : Escaping (b :: xs) (b :: ys)
  | escape {b : UInt8} (hb : IsApart b) {xs ys : List UInt8} (h : Escaping xs ys) :
    Escaping (Utf8.encode (percentByte b) ++ xs) (b :: ys)

/-- An escape is a percent sign and the two digits of its byte. -/
theorem encode_percentByte (b : UInt8) :
    ∃ high low, Utf8.encode (percentByte b) = [0x25, high, low] ∧
      ∀ rest, hexByte? (high :: low :: rest) = some b := by
  have digits : ∀ n < 16, ∃ digit ∈ String.utf8EncodeChar (upperHexDigit n),
      String.utf8EncodeChar (upperHexDigit n) = [digit] ∧
        hexDigit? digit = some (UInt8.ofNat n) := by decide
  have hb : b.toNat < 256 := b.toNat_lt
  obtain ⟨high, -, hhigh, hhighValue⟩ := digits (b.toNat / 16) (by omega)
  obtain ⟨low, -, hlow, hlowValue⟩ := digits (b.toNat % 16) (by omega)
  have hsign : String.utf8EncodeChar '%' = [0x25] := by decide
  refine ⟨high, low, ?_, fun rest => ?_⟩
  · simp only [Utf8.encode, percentByte, List.flatMap_cons, List.flatMap_nil, hsign, hhigh, hlow,
      List.append_nil, List.singleton_append]
  · have hvalue : 16 * UInt8.ofNat (b.toNat / 16) + UInt8.ofNat (b.toNat % 16) = b := by
      refine UInt8.toNat_inj.mp ?_
      simp only [UInt8.toNat_add, UInt8.toNat_mul, UInt8.toNat_ofNat', UInt8.toNat_ofNat]
      omega
    rw [hexByte?, hhighValue, hlowValue]
    exact congrArg some hvalue

/-- Escaping leaves the digits at the front as they are, and puts none there. -/
theorem Escaping.hexByte?_eq {xs ys : List UInt8} (h : Escaping xs ys) : hexByte? xs = hexByte? ys := by
  have hsign : hexDigit? 0x25 = none := by decide
  cases h with
  | nil => rfl
  | escape hb h =>
    obtain ⟨high, low, hbytes, -⟩ := encode_percentByte _
    rw [hbytes]
    cases h <;> simp [hexByte?, hsign, hb.2]
  | keep b h =>
    cases h with
    | nil => rfl
    | keep c h => rfl
    | escape hc h =>
      obtain ⟨high, low, hbytes, -⟩ := encode_percentByte _
      rw [hbytes]
      simp [hexByte?, hsign, hc.2]

/-- What is read at the front are two digits. -/
theorem digits_of_hexByte? {bytes : List UInt8} {value : UInt8} (h : hexByte? bytes = some value) :
    ∀ b ∈ bytes.take 2, hexDigit? b ≠ none := by
  unfold hexByte? at h
  split at h
  · next high low rest =>
    obtain ⟨vh, hh, hrest⟩ := Option.bind_eq_some_iff.mp h
    obtain ⟨vl, hl, -⟩ := Option.map_eq_some_iff.mp hrest
    simp [hh, hl]
  · cases h

/-- As `percentDecoded_eq`, behind an escape whose digits are still to be left out. -/
theorem Escaping.percentDecodedFrom_eq {xs ys : List UInt8} (h : Escaping xs ys) {skip : Nat}
    (hdigits : ∀ b ∈ ys.take skip, hexDigit? b ≠ none) :
    percentDecodedFrom skip xs = percentDecodedFrom skip ys := by
  induction h generalizing skip with
  | nil => rfl
  | keep b h ih =>
    cases skip with
    | succ skip => exact ih fun c hc => hdigits c (List.mem_cons_of_mem _ hc)
    | zero =>
      rw [percentDecodedFrom, percentDecodedFrom, h.hexByte?_eq]
      split
      · next value hvalue =>
        -- the digits behind a percent sign are kept, so they can be left out on both sides
        split at hvalue
        · rw [ih (digits_of_hexByte? hvalue)]
        · cases hvalue
      · rw [ih (by simp)]
  | @escape b hb xs ys h ih =>
    cases skip with
    | succ skip => exact absurd hb.2 (hdigits _ List.mem_cons_self)
    | zero =>
      obtain ⟨high, low, hbytes, hvalue⟩ := encode_percentByte b
      have hleft : percentDecodedFrom 0 (Utf8.encode (percentByte b) ++ xs) =
          b :: percentDecodedFrom 0 xs := by
        rw [hbytes, List.cons_append, percentDecodedFrom, if_pos rfl, List.cons_append,
          List.cons_append, hvalue]
        rfl
      rw [hleft, percentDecodedFrom, if_neg hb.1, ih (by simp)]

/-- **What escapes stand for does not change** when bytes are escaped that are no digits and no percent
signs. -/
theorem Escaping.percentDecoded_eq {xs ys : List UInt8} (h : Escaping xs ys) :
    percentDecoded xs = percentDecoded ys :=
  h.percentDecodedFrom_eq (by simp)

/-! ## Escaped URLs -/

theorem Escaping.append {xs ys xs' ys' : List UInt8} (h : Escaping xs ys) (h' : Escaping xs' ys') :
    Escaping (xs ++ xs') (ys ++ ys') := by
  induction h with
  | nil => exact h'
  | keep b _ ih => exact .keep b ih
  | escape hb _ ih =>
    rw [List.append_assoc]
    exact .escape hb ih

theorem escaping_refl (bytes : List UInt8) : Escaping bytes bytes := by
  induction bytes with
  | nil => exact .nil
  | cons b rest ih => exact .keep b ih

theorem escaping_escape {bytes : List UInt8} (h : ∀ b ∈ bytes, IsApart b) :
    Escaping (Utf8.encode (bytes.flatMap percentByte)) bytes := by
  induction bytes with
  | nil => exact .nil
  | cons b rest ih =>
    obtain ⟨hb, hrest⟩ := List.forall_mem_cons.mp h
    have hencode : Utf8.encode ((b :: rest).flatMap percentByte) =
        Utf8.encode (percentByte b) ++ Utf8.encode (rest.flatMap percentByte) := by
      simp [Utf8.encode]
    rw [hencode]
    exact .escape hb (ih hrest)

/-- A byte of a character is the character itself, or belongs to no plain character. -/
theorem byte_cases {c : Char} {b : UInt8} (h : b ∈ String.utf8EncodeChar c) :
    b.toNat = c.toNat ∨ 128 ≤ b.toNat := by
  unfold String.utf8EncodeChar at h
  simp only [Char.toNat_val] at h
  repeat' split at h
  all_goals
    simp only [List.mem_cons, List.not_mem_nil, or_false] at h
  · rw [h, UInt8.toNat_ofNat']
    omega
  all_goals
    right
  · rcases h with rfl | rfl <;> rw [UInt8.toNat_ofNat'] <;> omega
  · rcases h with rfl | rfl | rfl <;> rw [UInt8.toNat_ofNat'] <;> omega
  · rcases h with rfl | rfl | rfl | rfl <;> rw [UInt8.toNat_ofNat'] <;> omega

/-- What is not safe in a URL is neither a digit nor a percent sign, nor are its bytes. -/
theorem isApart_of_mem_utf8EncodeChar {c : Char} (hc : isHrefSafe c = false) {b : UInt8}
    (hb : b ∈ String.utf8EncodeChar c) : IsApart b := by
  have plain : ∀ n < 128, isHrefSafe (Char.ofNat n) = false →
      UInt8.ofNat n ≠ 0x25 ∧ hexDigit? (UInt8.ofNat n) = none := by decide +kernel
  have others : ∀ n < 256, 128 ≤ n →
      UInt8.ofNat n ≠ 0x25 ∧ hexDigit? (UInt8.ofNat n) = none := by decide +kernel
  by_cases hplain : b.toNat < 128
  · have hbyte : b.toNat = c.toNat := (byte_cases hb).resolve_right (Nat.not_le_of_lt hplain)
    have hapart := plain b.toNat hplain
    rw [UInt8.ofNat_toNat, hbyte, Char.ofNat_toNat] at hapart
    exact hapart hc
  · have hapart := others b.toNat b.toNat_lt (Nat.le_of_not_lt hplain)
    rwa [UInt8.ofNat_toNat] at hapart

/-- **Escaping a URL escapes some of its bytes**, but no digits and no percent signs. -/
theorem escaping_bareHrefChar (cs : List Char) :
    Escaping (Utf8.encode (cs.flatMap bareHrefChar)) (Utf8.encode cs) := by
  induction cs with
  | nil => exact .nil
  | cons c rest ih =>
    have hleft : Utf8.encode ((c :: rest).flatMap bareHrefChar) =
        Utf8.encode (bareHrefChar c) ++ Utf8.encode (rest.flatMap bareHrefChar) := by
      simp [Utf8.encode]
    have hright : Utf8.encode (c :: rest) = String.utf8EncodeChar c ++ Utf8.encode rest := rfl
    have hkept : Utf8.encode [c] = String.utf8EncodeChar c := List.append_nil _
    rw [hleft, hright]
    refine Escaping.append ?_ ih
    unfold bareHrefChar
    split
    · rw [hkept]
      exact escaping_refl _
    · next hsafe =>
      split
      · rw [hkept]
        exact escaping_refl _
      · exact escaping_escape fun b hb =>
          isApart_of_mem_utf8EncodeChar (Bool.eq_false_iff.mpr hsafe) hb

/-- An ampersand in the text for a character begins an entity, and it is the first sign of that text. -/
theorem entity_of_hrefChar {c : Char} {front back : List Char} (h : hrefChar c = front ++ '&' :: back) :
    "amp;".toList <+: back ∨ "#x27;".toList <+: back := by
  have hno (cs : List Char) (hcs : '&' ∉ cs) : cs ≠ front ++ '&' :: back := by
    rintro rfl
    exact hcs (by simp)
  have hcut {entity : List Char} (he : '&' ∉ entity) (ht : '&' :: entity = front ++ '&' :: back) :
      back = entity := by
    cases front with
    | nil => exact (List.cons.inj ht).2.symm
    | cons d ds =>
      have htail := (List.cons.inj ht).2
      exact absurd (htail ▸ he) (by simp)
  unfold hrefChar at h
  split at h
  · next hsafe =>
    refine absurd h (hno _ ?_)
    rw [List.mem_singleton]
    rintro rfl
    exact absurd hsafe (by decide)
  · split at h
    · exact .inl (hcut (by decide) h ▸ List.prefix_rfl)
    · split at h
      · exact .inr (hcut (by decide) h ▸ List.prefix_rfl)
      · refine absurd h (hno _ fun hm => ?_)
        exact absurd (isHrefSafe_of_mem_percentChar hm) (by decide)

/-- Every ampersand in an escaped URL begins one of two entities. -/
theorem entity_of_hrefChars {cs front back : List Char} (h : hrefChars cs = front ++ '&' :: back) :
    "amp;".toList <+: back ∨ "#x27;".toList <+: back := by
  induction cs generalizing front with
  | nil => simp [hrefChars] at h
  | cons c rest ih =>
    rw [hrefChars, List.flatMap_cons] at h
    rcases List.append_eq_append_iff.mp h with ⟨front', rfl, hrest⟩ | ⟨middle, hc, hback⟩
    · exact ih hrest
    · cases middle with
      | nil =>
        have hrest : hrefChars rest = [] ++ '&' :: back := hback.symm
        exact ih hrest
      | cons d ds =>
        obtain ⟨rfl, rfl⟩ := List.cons.inj hback
        rcases entity_of_hrefChar hc with hp | hp
        · exact .inl (hp.trans (List.prefix_append _ _))
        · exact .inr (hp.trans (List.prefix_append _ _))

/-- Safe characters are written as they are. -/
theorem hrefChars_of_safe {cs : List Char} (h : ∀ c ∈ cs, isHrefSafe c = true) : hrefChars cs = cs := by
  induction cs with
  | nil => rfl
  | cons c rest ih =>
    obtain ⟨hc, hrest⟩ := List.forall_mem_cons.mp h
    rw [hrefChars, List.flatMap_cons, veils_hrefChar.keeps c hc]
    exact congrArg (c :: ·) (ih hrest)

/-- What is left when the entities of an escaped URL are resolved is escaped to the same text again. -/
theorem hrefChars_bareHrefChar (cs : List Char) :
    hrefChars (cs.flatMap bareHrefChar) = hrefChars cs := by
  have hone (c : Char) : hrefChars (bareHrefChar c) = hrefChar c := by
    have hself : hrefChars [c] = hrefChar c := List.append_nil _
    by_cases hc : isHrefSafe c = true
    · rw [bareHrefChar, if_pos hc, hself]
    · by_cases hentity : c = '&' ∨ c = '\''
      · rw [bareHrefChar, if_neg hc, if_pos hentity, hself]
      · obtain ⟨hamp, hquote⟩ := not_or.mp hentity
        rw [bareHrefChar, if_neg hc, if_neg hentity, hrefChar, if_neg hc, if_neg hamp, if_neg hquote]
        exact hrefChars_of_safe fun d hd => isHrefSafe_of_mem_percentChar hd
  induction cs with
  | nil => rfl
  | cons c rest ih =>
    rw [List.flatMap_cons, hrefChars_append, ih, hone]
    rfl

/-- **An escaped URL means what the URL meant.** Its ampersands begin entities; with these resolved it
stands for the same bytes as the URL, and it can be escaped again without a change. -/
theorem href_meaning (url : String) :
    (∀ front back, (href url).toList = front ++ '&' :: back →
      "amp;".toList <+: back ∨ "#x27;".toList <+: back) ∧
    percentDecoded (Utf8.encode (decoded (href url).toList)) =
      percentDecoded (Utf8.encode url.toList) ∧
    href (String.ofList (decoded (href url).toList)) = href url := by
  have htext : (href url).toList = hrefChars url.toList := String.toList_ofList
  rw [htext, decoded_hrefChars]
  refine ⟨fun front back => entity_of_hrefChars, (escaping_bareHrefChar _).percentDecoded_eq, ?_⟩
  rw [href, String.toList_ofList, hrefChars_bareHrefChar]
  rfl

/-- A stray percent sign takes no digit from the escapes behind it. -/
example : href "%4\x7b%c3é%" = "%4%7B%c3%C3%A9%" ∧
    percentDecoded (Utf8.encode "%4%7B%c3%C3%A9%".toList) =
      Utf8.encode "%4\x7b".toList ++ [0xC3] ++ Utf8.encode "é%".toList := by
  decide

end FlavoredMarkdown.Url

import MarkdownCheck.Text.Quoted
import Mathlib.Algebra.Group.Nat.Defs
import Mathlib.Tactic.SplitIfs

/-!
# Quoted texts are read back

Between quotes a character is written in one of four ways (`Text.Quoted.Written`).  Whichever it is,
the reader puts the character in front of what it reads later (`Written.decodeBody_append`), so that
reading undoes quoting for every text (`decode_encode`).  Where a character is written by the digits
of its code point, the reader takes them in one by one (`decodeBody_hexDigits`).

The reader stops at the closing quote, so a quoted text shows where it ends, whatever stands behind it
(`encode_append_inj`). All four ways are printable, and so is a quoted text
(`isPrintable_of_mem_encode`).
-/

namespace MarkdownCheck

namespace Text.Quoted

/-! ## Digits of a code point -/

theorem hexValue_digitChar {n : Nat} (h : n < 16) : hexValue (Nat.digitChar n) = some n := by
  decide +revert

theorem isPrintable_digitChar {n : Nat} (h : n < 16) : isPrintable (Nat.digitChar n) = true := by
  decide +revert

theorem isPrintable_of_mem_hexDigits {width n : Nat} {d : Char} (h : d ∈ hexDigits width n) :
    isPrintable d = true := by
  induction width generalizing n with
  | zero => simp [hexDigits] at h
  | succ width ih =>
    rw [hexDigits, List.mem_append, List.mem_singleton] at h
    rcases h with h | rfl
    · exact ih h
    · exact isPrintable_digitChar (Nat.mod_lt _ (by decide))

section Reading

variable {quote : Char}

/-- Digits in front of `left` others shift what was read before and come in below it. -/
theorem decodeBody_hexDigits {left : Nat} (hleft : 0 < left) (width value n : Nat) (rest : Text) :
    decodeBody quote (.digits (width + left) value) (hexDigits width n ++ rest) =
      decodeBody quote (.digits left (16 ^ width * value + n % 16 ^ width)) rest := by
  induction width generalizing left n rest with
  | zero => simp [hexDigits, Nat.mod_one]
  | succ width ih =>
    -- the last digit is written last, so to the others there is one more to come
    have hlast := hexValue_digitChar (Nat.mod_lt n (by decide : 0 < 16))
    have hmore : ¬ left + 1 ≤ 1 := by omega
    have hvalue : 16 * (16 ^ width * value + n / 16 % 16 ^ width) + n % 16 =
        16 ^ (width + 1) * value + n % 16 ^ (width + 1) := by
      rw [Nat.pow_succ', Nat.mod_mul, Nat.mul_assoc]
      omega
    rw [hexDigits, List.append_assoc, List.singleton_append, Nat.add_right_comm, Nat.add_assoc,
      ih (Nat.add_pos_left hleft 1), decodeBody]
    simp only [hlast, if_neg hmore, Nat.add_sub_cancel, hvalue]

/-- A character comes back from the digits of its code point if there are enough of them. -/
theorem decodeBody_codePoint {width : Nat} {c : Char} (hwidth : 0 < width)
    (h : c.toNat < 16 ^ width) (rest : Text) :
    decodeBody quote (.digits width 0) (hexDigits width c.toNat ++ rest) =
      (decodeBody quote .plain rest).map (c :: ·) := by
  obtain ⟨width, rfl⟩ := Nat.exists_eq_add_one.mpr hwidth
  have hlast := hexValue_digitChar (Nat.mod_lt c.toNat (by decide : 0 < 16))
  have hfront : c.toNat / 16 < 16 ^ width := by
    rw [Nat.pow_succ] at h
    omega
  have hcode : 16 * (16 ^ width * 0 + c.toNat / 16 % 16 ^ width) + c.toNat % 16 = c.toNat := by
    rw [Nat.mod_eq_of_lt hfront]
    omega
  rw [hexDigits, List.append_assoc, List.singleton_append, decodeBody_hexDigits Nat.one_pos,
    decodeBody]
  simp only [hlast, Nat.le_refl, if_true, hcode, Char.ofNat_toNat]

end Reading

/-! ## One character -/

/-- How a character is written between quotes: behind a backslash if it is one or the quote, by a
letter, as itself or by the digits of its code point. -/
inductive Written (quote c : Char) : Text → Prop
  | escaped (h : c = '\\' ∨ c = quote) : Written quote c ['\\', c]
  | named {letter : Char}
    (h : letter = 'n' ∧ c = '\n' ∨ letter = 'r' ∧ c = '\r' ∨ letter = 't' ∧ c = '\t') :
    Written quote c ['\\', letter]
  | itself (hbackslash : c ≠ '\\') (hquote : c ≠ quote) (h : isPrintable c = true) :
    Written quote c [c]
  | code {letter : Char} {width : Nat}
    (h : letter = 'x' ∧ width = 2 ∨ letter = 'u' ∧ width = 4 ∨ letter = 'U' ∧ width = 8)
    (hc : c.toNat < 16 ^ width) : Written quote c ('\\' :: letter :: hexDigits width c.toNat)

section Character

variable {quote c : Char} {form : Text}

theorem written_encodeChar (quote c : Char) : Written quote c (encodeChar quote c) := by
  unfold encodeChar
  split_ifs with hescaped hlf hcr htab hprintable hshort hmiddle
  · exact .escaped hescaped
  · exact .named (.inl ⟨rfl, hlf⟩)
  · exact .named (.inr (.inl ⟨rfl, hcr⟩))
  · exact .named (.inr (.inr ⟨rfl, htab⟩))
  · obtain ⟨hbackslash, hquote⟩ := not_or.mp hescaped
    exact .itself hbackslash hquote hprintable
  · exact .code (.inl ⟨rfl, rfl⟩) hshort
  · exact .code (.inr (.inl ⟨rfl, rfl⟩)) hmiddle
  · exact .code (.inr (.inr ⟨rfl, rfl⟩)) c.val.toNat_lt

/-- What can be the quotes of a quoted form. -/
def IsQuote (quote : Char) : Prop := quote = singleQuote ∨ quote = doubleQuote

theorem isQuote_quoteFor (t : Text) : IsQuote (quoteFor t) := by
  unfold quoteFor
  split_ifs
  · exact .inr rfl
  · exact .inl rfl

theorem IsQuote.ne_backslash (h : IsQuote quote) : '\\' ≠ quote := by
  rcases h with rfl | rfl <;> decide

theorem IsQuote.isPrintable (h : IsQuote quote) : isPrintable quote = true := by
  rcases h with rfl | rfl <;> decide

/-- **One character is read back**, and after it what follows. -/
theorem Written.decodeBody_append (h : Written quote c form) (hquote : IsQuote quote) (rest : Text) :
    decodeBody quote .plain (form ++ rest) = (decodeBody quote .plain rest).map (c :: ·) := by
  have hescape : ∀ t, decodeBody quote .plain ('\\' :: t) = decodeBody quote .escape t := by
    intro t
    rw [decodeBody, if_neg hquote.ne_backslash, if_pos rfl]
  cases h with
  | escaped hc =>
    rw [List.cons_append, hescape]
    rcases hc with rfl | rfl
    · simp [decodeBody]
    · rcases hquote with rfl | rfl <;> simp [decodeBody, singleQuote, doubleQuote]
  | named hletter =>
    rw [List.cons_append, hescape]
    rcases hletter with ⟨rfl, rfl⟩ | ⟨rfl, rfl⟩ | ⟨rfl, rfl⟩ <;> simp [decodeBody]
  | itself hbackslash hne _ =>
    rw [List.singleton_append, decodeBody, if_neg hne, if_neg hbackslash]
  | @code letter width hletter hc =>
    rw [List.cons_append, hescape, List.cons_append]
    rcases hletter with ⟨rfl, rfl⟩ | ⟨rfl, rfl⟩ | ⟨rfl, rfl⟩
    all_goals exact decodeBody_codePoint (by decide) hc rest

theorem Written.isPrintable (h : Written quote c form) (hquote : IsQuote quote) :
    ∀ d ∈ form, isPrintable d = true := by
  have hbackslash : MarkdownCheck.isPrintable '\\' = true := by decide
  cases h with
  | escaped hc =>
    have hprintable : MarkdownCheck.isPrintable c = true := by
      rcases hc with rfl | rfl
      · exact hbackslash
      · exact hquote.isPrintable
    simp [hbackslash, hprintable]
  | @named letter hletter =>
    have hprintable : MarkdownCheck.isPrintable letter = true := by
        rcases hletter with ⟨rfl, -⟩ | ⟨rfl, -⟩ | ⟨rfl, -⟩ <;> decide
    simp [hbackslash, hprintable]
  | itself _ _ hprintable => simpa using hprintable
  | @code letter width hletter _ =>
    have hprintable : MarkdownCheck.isPrintable letter = true := by
        rcases hletter with ⟨rfl, -⟩ | ⟨rfl, -⟩ | ⟨rfl, -⟩ <;> decide
    simp only [List.forall_mem_cons]
    exact ⟨hbackslash, hprintable, fun d => isPrintable_of_mem_hexDigits⟩

end Character

/-! ## Whole texts -/

/-- A text is read up to the closing quote, and nothing may stand behind that. -/
theorem decodeBody_flatMap {quote : Char} (hquote : IsQuote quote) (t rest : Text) :
    decodeBody quote .plain (t.flatMap (encodeChar quote) ++ quote :: rest) =
      if rest.isEmpty then some t else none := by
  induction t with
  | nil => simp [decodeBody]
  | cons c t ih =>
    rw [List.flatMap_cons, List.append_assoc,
      (written_encodeChar quote c).decodeBody_append hquote, ih]
    split_ifs <;> rfl

theorem decode_encode_append (t rest : Text) :
    decode (encode t ++ rest) = if rest.isEmpty then some t else none := by
  have hquote := isQuote_quoteFor t
  rw [encode, List.cons_append, List.cons_append, List.append_assoc, decode]
  exact (if_pos hquote).trans (decodeBody_flatMap hquote t rest)

/-- **Reading undoes quoting.** -/
theorem decode_encode (t : Text) : decode (encode t) = some t := by
  simpa using decode_encode_append t []

/-- Nothing that goes on behind a quoted text is quoted as a whole. -/
theorem eq_nil_of_encode_eq_append {s t more : Text} (h : encode t = encode s ++ more) :
    more = [] := by
  have hread := decode_encode t
  rw [h, decode_encode_append] at hread
  cases more with
  | nil => rfl
  | cons c more => cases hread

/-- **A quoted text shows where it ends**: two of them are the same if one text begins with both. -/
theorem encode_append_inj {s t more rest : Text} (h : encode s ++ more = encode t ++ rest) :
    s = t ∧ more = rest := by
  have hencode : encode s = encode t := by
    rcases List.append_eq_append_iff.mp h with ⟨between, hlong, -⟩ | ⟨between, hlong, -⟩
    · rw [hlong, eq_nil_of_encode_eq_append hlong, List.append_nil]
    · rw [hlong, eq_nil_of_encode_eq_append hlong, List.append_nil]
  have hread := decode_encode s
  rw [hencode, decode_encode] at hread
  rw [hencode] at h
  exact ⟨(Option.some.inj hread).symm, List.append_cancel_left h⟩

/-- **A quoted text is printable.** -/
theorem isPrintable_of_mem_encode {t : Text} {d : Char} (h : d ∈ encode t) :
    isPrintable d = true := by
  have hquote := isQuote_quoteFor t
  simp only [encode, List.cons_append, List.mem_cons, List.mem_append, List.mem_flatMap,
    List.not_mem_nil, or_false] at h
  rcases h with rfl | ⟨c, -, hd⟩ | rfl
  · exact hquote.isPrintable
  · exact (written_encodeChar _ c).isPrintable hquote d hd
  · exact hquote.isPrintable

end Text.Quoted

/-! ## Names -/

/-- The name that a quoted form stands for. -/
def unquoted (s : String) : Option String := (Text.Quoted.decode s.toList).map String.ofList

@[simp] theorem unquoted_quoted (name : String) : unquoted (quoted name) = some name := by
  rw [unquoted, quoted, String.toList_ofList, Text.Quoted.decode_encode, Option.map_some,
    String.ofList_toList]

theorem quoted_append_inj {name other more rest : String}
    (h : quoted name ++ more = quoted other ++ rest) : name = other ∧ more = rest := by
  have htext := congrArg String.toList h
  rw [String.toList_append, String.toList_append, quoted, quoted, String.toList_ofList,
    String.toList_ofList] at htext
  obtain ⟨hname, hmore⟩ := Text.Quoted.encode_append_inj htext
  exact ⟨String.toList_inj.mp hname, String.toList_inj.mp hmore⟩

theorem isPrintable_of_mem_quoted {name : String} {d : Char} (h : d ∈ (quoted name).toList) :
    isPrintable d = true := by
  rw [quoted, String.toList_ofList] at h
  exact Text.Quoted.isPrintable_of_mem_encode h

end MarkdownCheck

import MarkdownCheck.Proofs.Trimming
import MarkdownCheck.Text.Numeral
import Mathlib.Data.List.TakeWhile
import Mathlib.Data.Nat.Digits.Lemmas

/-!
# The grammar of numerals

`Denotes front t n` says how a text `t` writes the number `n`: between white space a sign or none, then
what `front` admits, then digits with single underscores between some of them, then a point with zeros
behind it or nothing.  The value is that of the digits in base ten (`denoted`).

The reader takes such a text apart from the left.  It passes over white space (`trimmed_eq`), then over
leading zeros, among which it does not look where underscores stand (`dropLeadingZeros_eq_some_iff`), it
cuts off the fraction, and takes the underscores out (`dropUnderscores_iff`).  So it reads what the
grammar admits with `LeadingZeros` in front, up to a limit on the digits that are left then
(`parse_eq_some_iff_of_pos`).  That holds of numbers from one upwards: what is read as zero or less
includes texts with a minus sign behind zeros.
-/

namespace MarkdownCheck.Text.Numeral

/-! ## The grammar -/

/-- The number that digits stand for in base ten. -/
def denoted (digits : Text) : Nat :=
  Nat.ofDigits 10 (digits.reverse.map fun d => d.toNat - '0'.toNat)

/-- Digits with single underscores between some of them, and the same digits without. -/
inductive Grouped : Text → Text → Prop
  | last {d : Char} (hd : isDigit d = true) : Grouped [d] [d]
  | digit {d : Char} {t digits : Text} (hd : isDigit d = true) (h : Grouped t digits) :
    Grouped (d :: t) (d :: digits)
  | underscore {d : Char} {t digits : Text} (hd : isDigit d = true) (h : Grouped t digits) :
    Grouped (d :: '_' :: t) (d :: digits)

/-- A sign or none, and what it makes of a number. -/
inductive Signed : Text → Nat → Int → Prop
  | none (m : Nat) : Signed [] m m
  | plus (m : Nat) : Signed ['+'] m m
  | minus (m : Nat) : Signed ['-'] m (-m)

/-- Nothing, or a point with zeros behind it. -/
def ZeroFraction (t : Text) : Prop := t = [] ∨ ∃ k, t = '.' :: List.replicate (k + 1) '0'

/-- Nothing, or a zero with zeros and underscores behind it, in whatever order. -/
def LeadingZeros (t : Text) : Prop := t = [] ∨ ∃ more, t = '0' :: more ∧ ∀ c ∈ more, c = '0' ∨ c = '_'

/-- Whether a text writes a number, with what `front` admits in front of the digits. -/
inductive Denotes (front : Text → Prop) : Text → Int → Prop
  | intro {left sign zeros grouped digits fraction right : Text} {n : Int}
    (hleft : ∀ c ∈ left, isWhiteSpace c = true) (hsign : Signed sign (denoted digits) n)
    (hzeros : front zeros) (hgrouped : Grouped grouped digits) (hfraction : ZeroFraction fraction)
    (hright : ∀ c ∈ right, isWhiteSpace c = true) :
    Denotes front (left ++ (sign ++ (zeros ++ (grouped ++ fraction))) ++ right) n

variable {t : Text}

/-! ## Values of digits -/

theorem isDigit_iff {c : Char} : isDigit c = true ↔ 48 ≤ c.toNat ∧ c.toNat ≤ 57 := by
  have hle : ∀ a b : Char, a ≤ b ↔ a.toNat ≤ b.toNat := fun _ _ => Iff.rfl
  simp [isDigit, hle]

theorem isNonzeroDigit_iff {c : Char} : isNonzeroDigit c = true ↔ 49 ≤ c.toNat ∧ c.toNat ≤ 57 := by
  have hle : ∀ a b : Char, a ≤ b ↔ a.toNat ≤ b.toNat := fun _ _ => Iff.rfl
  simp [isNonzeroDigit, hle]

theorem isDigit_of_isNonzeroDigit {c : Char} (h : isNonzeroDigit c = true) : isDigit c = true := by
  rw [isNonzeroDigit_iff] at h
  rw [isDigit_iff]
  omega

/-- A digit is either zero or not. -/
theorem eq_zero_or_isNonzeroDigit {c : Char} (h : isDigit c = true) :
    c = '0' ∨ isNonzeroDigit c = true := by
  rw [isDigit_iff] at h
  by_cases hc : c.toNat = 48
  · exact .inl (Char.toNat_inj.mp hc)
  · right
    rw [isNonzeroDigit_iff]
    omega

theorem digitsValue_eq_denoted (digits : Text) : digitsValue digits = denoted digits := by
  rw [digitsValue, denoted, Nat.ofDigits_eq_foldr, List.foldr_map, List.foldl_eq_foldr_reverse]
  simp [Nat.add_comm]

theorem denoted_zero_cons (digits : Text) : denoted ('0' :: digits) = denoted digits := by
  rw [denoted, denoted, List.reverse_cons, List.map_append, List.map_singleton, Nat.sub_self,
    Nat.ofDigits_append_zero]

theorem denoted_lt {digits : Text} (h : ∀ d ∈ digits, isDigit d = true) :
    denoted digits < 10 ^ digits.length := by
  have hbase : ∀ k ∈ digits.reverse.map (fun d => d.toNat - '0'.toNat), k < 10 := by
    intro k hk
    obtain ⟨d, hd, rfl⟩ := List.mem_map.mp hk
    have hd := isDigit_iff.mp (h d (List.mem_reverse.mp hd))
    show d.toNat - 48 < 10
    omega
  have hlt := Nat.ofDigits_lt_base_pow_length (by decide : 1 < 10) hbase
  rw [List.length_map, List.length_reverse] at hlt
  exact hlt

/-- Digits of which the first is not zero stand for a number with as many digits. -/
theorem le_denoted {d : Char} {digits : Text} (hd : isNonzeroDigit d = true) :
    10 ^ digits.length ≤ denoted (d :: digits) := by
  have hd := isNonzeroDigit_iff.mp hd
  have hlast : ((d :: digits).reverse.map fun d => d.toNat - '0'.toNat).getLast (by simp) ≠ 0 := by
    show _ ≠ 0
    simp only [List.reverse_cons, List.map_append, List.map_singleton, List.getLast_concat]
    show d.toNat - 48 ≠ 0
    omega
  have hle := Nat.pow_length_le_mul_ofDigits (b := 8) (by simp) hlast
  rw [List.length_map, List.length_reverse, List.length_cons, pow_succ, Nat.mul_comm] at hle
  exact Nat.le_of_mul_le_mul_left hle (by decide)

/-! ## White space -/

theorem isWhiteSpace_eq_false {c : Char} (h : 33 ≤ c.toNat ∧ c.toNat ≤ 126) :
    isWhiteSpace c = false := by
  simp only [isWhiteSpace, CodeRanges.covers, whiteSpaceRanges, List.any_eq_false]
  simp
  omega

/-! ## Leading zeros -/

theorem isNonzeroDigit_zero_or_underscore {c : Char} (h : c = '0' ∨ c = '_') :
    isNonzeroDigit c = false := by
  rcases h with rfl | rfl
  · rfl
  · rfl

theorem dropZeros_append {last d : Char} {more rest : Text} (hmore : ∀ c ∈ more, c = '0' ∨ c = '_')
    (hd : isNonzeroDigit d = true) : dropZeros last (more ++ d :: rest) = some (d :: rest) := by
  induction more generalizing last with
  | nil =>
    have hzero : ¬ (d = '0' ∨ d = '_') := by
      intro h
      rw [isNonzeroDigit_zero_or_underscore h] at hd
      cases hd
    have hpoint : d ≠ '.' := by
      rintro rfl
      cases hd
    rw [List.nil_append, dropZeros, if_neg hzero, if_neg hpoint, if_pos (.inr hd)]
  | cons c more ih =>
    rw [List.cons_append, dropZeros, if_pos (hmore c List.mem_cons_self)]
    exact ih fun b hb => hmore b (List.mem_cons_of_mem c hb)

/-- Where a digit other than zero comes first afterwards, zeros and underscores were dropped. -/
theorem exists_of_dropZeros {last d : Char} {rest : Text} (hlast : isNonzeroDigit last = false)
    (hd : isNonzeroDigit d = true) (h : dropZeros last t = some (d :: rest)) :
    ∃ more, (∀ c ∈ more, c = '0' ∨ c = '_') ∧ t = more ++ d :: rest := by
  have hne : last ≠ d := by
    rintro rfl
    rw [hlast] at hd
    cases hd
  induction t generalizing last with
  | nil =>
    rw [dropZeros, Option.some.injEq, List.cons.injEq] at h
    exact absurd h.1 hne
  | cons c t ih =>
    rw [dropZeros] at h
    by_cases hzero : c = '0' ∨ c = '_'
    · rw [if_pos hzero] at h
      have hc := isNonzeroDigit_zero_or_underscore hzero
      have hcd : c ≠ d := by
        rintro rfl
        rw [hc] at hd
        cases hd
      obtain ⟨more, hmore, rfl⟩ := ih hc h hcd
      exact ⟨c :: more, List.forall_mem_cons.mpr ⟨hzero, hmore⟩, rfl⟩
    · rw [if_neg hzero] at h
      by_cases hpoint : c = '.'
      · rw [if_pos hpoint, Option.some.injEq, List.cons.injEq] at h
        exact absurd h.1 hne
      · rw [if_neg hpoint] at h
        split_ifs at h
        exact ⟨[], by simp, Option.some.inj h⟩

/-- What is left when leading zeros are dropped, if it begins with a digit other than zero. -/
theorem dropLeadingZeros_eq_some_iff {d : Char} {rest : Text} (hd : isNonzeroDigit d = true) :
    dropLeadingZeros t = some (d :: rest) ↔
      ∃ zeros, LeadingZeros zeros ∧ t = zeros ++ d :: rest := by
  constructor
  · intro h
    cases t with
    | nil => cases h
    | cons c t =>
      rw [dropLeadingZeros] at h
      by_cases hzero : c = '0'
      · subst hzero
        rw [if_pos rfl] at h
        obtain ⟨more, hmore, rfl⟩ := exists_of_dropZeros rfl hd h
        exact ⟨'0' :: more, .inr ⟨more, rfl, hmore⟩, rfl⟩
      · rw [if_neg hzero] at h
        split_ifs at h
        exact ⟨[], .inl rfl, Option.some.inj h⟩
  · rintro ⟨zeros, rfl | ⟨more, rfl, hmore⟩, rfl⟩
    · have hzero : d ≠ '0' := by
        rintro rfl
        cases hd
      rw [List.nil_append, dropLeadingZeros, if_neg hzero, if_pos hd]
    · rw [List.cons_append, dropLeadingZeros, if_pos rfl]
      exact dropZeros_append hmore hd

/-! ## Underscores between digits -/

theorem isDigit_ne {c b : Char} (hc : isDigit c = true) (hb : isDigit b = false) : c ≠ b := by
  rintro rfl
  rw [hb] at hc
  cases hc

theorem Grouped.isDigit {grouped digits : Text} (h : Grouped grouped digits) :
    ∀ d ∈ digits, Numeral.isDigit d = true := by
  induction h with
  | last hd => simpa using hd
  | digit hd _ ih => exact List.forall_mem_cons.mpr ⟨hd, ih⟩
  | underscore hd _ ih => exact List.forall_mem_cons.mpr ⟨hd, ih⟩

/-- Grouped digits are digits and underscores. -/
theorem Grouped.mem {grouped digits : Text} (h : Grouped grouped digits) :
    ∀ c ∈ grouped, Numeral.isDigit c = true ∨ c = '_' := by
  induction h with
  | last hd => simpa using .inl hd
  | digit hd _ ih => exact List.forall_mem_cons.mpr ⟨.inl hd, ih⟩
  | underscore hd _ ih =>
    exact List.forall_mem_cons.mpr ⟨.inl hd, List.forall_mem_cons.mpr ⟨.inr rfl, ih⟩⟩

theorem dropUnderscores_cons_digit {d : Char} (hd : isDigit d = true) (after : Bool) (t : Text) :
    dropUnderscores after (d :: t) = (dropUnderscores false t).map (d :: ·) := by
  rw [dropUnderscores, if_neg (isDigit_ne hd rfl)]

theorem Grouped.dropUnderscores_eq {grouped digits : Text} (h : Grouped grouped digits) (after : Bool) :
    dropUnderscores after grouped = some digits := by
  induction h generalizing after with
  | last hd =>
    rw [dropUnderscores_cons_digit hd]
    rfl
  | digit hd _ ih => rw [dropUnderscores_cons_digit hd, ih, Option.map_some]
  | underscore hd _ ih =>
    rw [dropUnderscores_cons_digit hd, dropUnderscores, if_pos rfl, if_neg Bool.false_ne_true, ih,
      Option.map_some]

/-- What underscores are taken out of goes on from a digit as grouped digits do.  If an underscore
comes right before, that belongs to it. -/
theorem grouped_of_dropUnderscores {after : Bool} {first : Char} {digits : Text}
    (hfirst : isDigit first = true) (h : dropUnderscores after t = some digits)
    (hdigits : ∀ d ∈ digits, isDigit d = true) :
    Grouped (first :: if after then '_' :: t else t) (first :: digits) := by
  induction t generalizing after first digits with
  | nil =>
    cases after with
    | true => cases h
    | false =>
      obtain rfl : [] = digits := Option.some.inj h
      exact .last hfirst
  | cons c t ih =>
    rw [dropUnderscores] at h
    by_cases hc : c = '_'
    · rw [if_pos hc] at h
      cases after with
      | true => cases h
      | false =>
        subst hc
        exact ih hfirst h hdigits
    · rw [if_neg hc] at h
      obtain ⟨rest, hrest, rfl⟩ := Option.map_eq_some_iff.mp h
      obtain ⟨hdigit, hdigits⟩ := List.forall_mem_cons.mp hdigits
      have hgrouped : Grouped (c :: t) (c :: rest) := ih hdigit hrest hdigits
      cases after with
      | true => exact .underscore hfirst hgrouped
      | false => exact .digit hfirst hgrouped

/-- Underscores can be taken out, and digits are left, where those are grouped. -/
theorem dropUnderscores_iff {digits : Text} :
    dropUnderscores true t = some digits ∧ (∀ d ∈ digits, isDigit d = true) ↔ Grouped t digits := by
  constructor
  · rintro ⟨h, hdigits⟩
    have hzero : isDigit '0' = true := rfl
    cases grouped_of_dropUnderscores hzero h hdigits with
    | digit _ h => cases h with
      | last hd => cases hd
      | digit hd _ => cases hd
      | underscore hd _ => cases hd
    | underscore _ h => exact h
  · intro h
    exact ⟨h.dropUnderscores_eq true, h.isDigit⟩

theorem Grouped.exists_cons {grouped digits : Text} {d : Char} (h : Grouped grouped (d :: digits)) :
    ∃ rest, grouped = d :: rest := by
  cases h with
  | last => exact ⟨[], rfl⟩
  | digit => exact ⟨_, rfl⟩
  | underscore => exact ⟨_, rfl⟩

/-! ## Fractions -/

theorem dropZeroFraction_append {fraction : Text} (hpoint : '.' ∉ t) (h : ZeroFraction fraction) :
    dropZeroFraction (t ++ fraction) = t := by
  have hpassed : ∀ c ∈ t, decide (c ≠ '.') = true := by
    intro c hc
    exact decide_eq_true (ne_of_mem_of_not_mem hc hpoint)
  unfold dropZeroFraction
  rcases h with rfl | ⟨k, rfl⟩
  · rw [List.append_nil, List.dropWhile_eq_nil_iff.mpr hpassed]
  · have hzeros : ('0' :: List.replicate k '0').all (· = '0') = true := by simp
    rw [List.replicate_succ, List.dropWhile_append_of_pos hpassed,
      List.dropWhile_cons_of_neg (by simp)]
    dsimp only
    rw [if_pos hzeros, List.takeWhile_append_of_pos hpassed, List.takeWhile_cons_of_neg (by simp),
      List.append_nil]

/-- Nothing but a fraction of zeros is cut off. -/
theorem exists_zeroFraction (t : Text) :
    ∃ fraction, ZeroFraction fraction ∧ t = dropZeroFraction t ++ fraction := by
  have hwhole : ∃ fraction, ZeroFraction fraction ∧ t = t ++ fraction :=
    ⟨[], .inl rfl, (List.append_nil t).symm⟩
  unfold dropZeroFraction
  split
  · rename_i c z zeros hdrop
    split_ifs with hzeros
    · have hc : c = '.' := by
        have hstop := List.head?_dropWhile_not (· ≠ '.') t
        rw [hdrop] at hstop
        simpa using hstop
      have hreplicate : z :: zeros = List.replicate (zeros.length + 1) '0' := by
        refine List.eq_replicate_iff.mpr ⟨rfl, fun b hb => ?_⟩
        simpa using List.all_eq_true.mp hzeros b hb
      refine ⟨c :: z :: zeros, .inr ⟨zeros.length, by rw [hc, hreplicate]⟩, ?_⟩
      rw [← hdrop, List.takeWhile_append_dropWhile]
    · exact hwhole
  · exact hwhole

/-! ## Reading -/

/-- What the reader makes of a text behind its sign. -/
def bare (t : Text) : Option Text :=
  (dropLeadingZeros t).bind fun s => dropUnderscores true (dropZeroFraction s)

theorem bare_eq_some_iff {d : Char} {digits : Text} (hd : isNonzeroDigit d = true) :
    bare t = some (d :: digits) ∧ (∀ c ∈ d :: digits, isDigit c = true) ↔
      ∃ zeros grouped fraction, LeadingZeros zeros ∧ Grouped grouped (d :: digits) ∧
        ZeroFraction fraction ∧ t = zeros ++ (grouped ++ fraction) := by
  constructor
  · rintro ⟨h, hdigits⟩
    obtain ⟨s, hs, hdrop⟩ := Option.bind_eq_some_iff.mp h
    have hgrouped := dropUnderscores_iff.mp ⟨hdrop, hdigits⟩
    obtain ⟨fraction, hfraction, hsplit⟩ := exists_zeroFraction s
    obtain ⟨rest, hrest⟩ := hgrouped.exists_cons
    rw [hsplit, hrest, List.cons_append] at hs
    obtain ⟨zeros, hzeros, rfl⟩ := (dropLeadingZeros_eq_some_iff hd).mp hs
    exact ⟨zeros, dropZeroFraction s, fraction, hzeros, hgrouped, hfraction, by rw [hrest]; rfl⟩
  · rintro ⟨zeros, grouped, fraction, hzeros, hgrouped, hfraction, rfl⟩
    obtain ⟨rest, rfl⟩ := hgrouped.exists_cons
    have hpoint : '.' ∉ d :: rest := by
      intro hmem
      rcases hgrouped.mem '.' hmem with h | h
      · cases h
      · cases h
    have hdrop : dropLeadingZeros (zeros ++ (d :: rest ++ fraction)) = some (d :: rest ++ fraction) :=
      (dropLeadingZeros_eq_some_iff hd).mpr ⟨zeros, hzeros, rfl⟩
    rw [bare, hdrop, Option.bind_some, dropZeroFraction_append hpoint hfraction]
    exact ⟨hgrouped.dropUnderscores_eq true, hgrouped.isDigit⟩

theorem simplify_eq {core : Text}
    (hcore : dropRightWhile isWhiteSpace (t.dropWhile isWhiteSpace) = core) :
    simplify t = (bare (splitSign core).2).map ((splitSign core).1 ++ ·) := by
  unfold simplify bare
  rw [hcore, Option.map_bind]
  rfl

theorem splitSign_fst (t : Text) : (splitSign t).1 = [] ∨ (splitSign t).1 = ['-'] := by
  unfold splitSign
  split
  · exact .inr rfl
  · exact .inl rfl
  · exact .inl rfl

/-- No minus sign is split off where a plus sign or none comes first. -/
theorem splitSign_fst_eq_nil_iff {body : Text} :
    splitSign t = ([], body) ↔
      t = '+' :: body ∨ t = body ∧ ∀ c ∈ body.head?, c ≠ '-' ∧ c ≠ '+' := by
  cases t with
  | nil =>
    constructor
    · intro h
      obtain rfl : [] = body := (Prod.mk.inj h).2
      exact .inr ⟨rfl, by simp⟩
    · rintro (h | ⟨rfl, -⟩)
      · cases h
      · rfl
  | cons c rest =>
    by_cases hminus : c = '-'
    · subst hminus
      simp only [splitSign, Prod.mk.injEq, List.cons_ne_nil, false_and, false_iff, not_or]
      refine ⟨by simp, ?_⟩
      rintro ⟨rfl, h⟩
      exact (h '-' rfl).1 rfl
    · by_cases hplus : c = '+'
      · subst hplus
        simp only [splitSign, Prod.mk.injEq, true_and, List.cons.injEq]
        refine ⟨.inl, ?_⟩
        rintro (h | ⟨rfl, h⟩)
        · exact h
        · exact absurd rfl (h '+' rfl).2
      · have hsplit : splitSign (c :: rest) = ([], c :: rest) := by simp [splitSign, hminus, hplus]
        rw [hsplit, Prod.mk.injEq]
        constructor
        · rintro ⟨-, rfl⟩
          refine .inr ⟨rfl, fun b hb => ?_⟩
          obtain rfl : c = b := by simpa using hb
          exact ⟨hminus, hplus⟩
        · rintro (h | ⟨h, -⟩)
          · exact absurd (List.cons.inj h).1 hplus
          · exact ⟨rfl, h⟩

/-- The plain form of a number from one upwards is made of digits, the first of them not zero. -/
theorem plainNat_eq_some_iff {m : Nat} (hm : 1 ≤ m) :
    plainNat t = some m ↔ ∃ d digits, t = d :: digits ∧ isNonzeroDigit d = true ∧
      (∀ c ∈ t, isDigit c = true) ∧ m = denoted t := by
  cases t with
  | nil => simp [plainNat]
  | cons d digits =>
    rw [plainNat, digitsValue_eq_denoted]
    constructor
    · intro h
      split_ifs at h with hform
      obtain rfl := Option.some.inj h
      simp only [Bool.or_eq_true, Bool.and_eq_true, decide_eq_true_eq, List.all_eq_true,
        List.isEmpty_iff] at hform
      rcases hform with ⟨hd, hdigits⟩ | ⟨rfl, rfl⟩
      · have hall : ∀ c ∈ d :: digits, isDigit c = true :=
          List.forall_mem_cons.mpr ⟨isDigit_of_isNonzeroDigit hd, hdigits⟩
        exact ⟨d, digits, rfl, hd, hall, rfl⟩
      · exact absurd hm (by decide)
    · rintro ⟨d', digits', heq, hd, hall, rfl⟩
      obtain ⟨rfl, rfl⟩ := List.cons.inj heq
      have hform : (isNonzeroDigit d && digits.all isDigit || d = '0' && digits.isEmpty) = true := by
        simp [hd, List.all_eq_true.mpr (List.forall_mem_cons.mp hall).2]
      rw [if_pos hform]

theorem plainInt_eq_some_iff {m : Nat} (hm : 1 ≤ m) :
    plainInt t = some (m : Int) ↔ ∃ d digits, t = d :: digits ∧ isNonzeroDigit d = true ∧
      (∀ c ∈ t, isDigit c = true) ∧ m = denoted t := by
  rw [← plainNat_eq_some_iff hm]
  unfold plainInt
  split
  · rename_i ds
    have hnone : plainNat ('-' :: ds) = none := by
      rw [plainNat, if_neg]
      simp [isNonzeroDigit]
    rw [hnone]
    constructor
    · intro h
      obtain ⟨-, hzero⟩ : plainNat ds = some 0 ∧ m = 0 := by simpa [Option.bind_eq_some_iff] using h
      omega
    · intro h
      cases h
  · simp [Option.bind_eq_some_iff]

theorem LeadingZeros.concat_zero {zeros : Text} (h : LeadingZeros zeros) :
    LeadingZeros (zeros ++ ['0']) := by
  rcases h with rfl | ⟨more, rfl, hmore⟩
  · exact .inr ⟨[], rfl, by simp⟩
  · refine .inr ⟨more ++ ['0'], rfl, ?_⟩
    rw [List.forall_mem_append]
    exact ⟨hmore, by simp⟩

theorem LeadingZeros.concat_zero_underscore {zeros : Text} (h : LeadingZeros zeros) :
    LeadingZeros (zeros ++ ['0', '_']) := by
  rcases h with rfl | ⟨more, rfl, hmore⟩
  · exact .inr ⟨['_'], rfl, by simp⟩
  · refine .inr ⟨more ++ ['0', '_'], rfl, ?_⟩
    rw [List.forall_mem_append]
    exact ⟨hmore, by simp⟩

/-- Of grouped digits the zeros at the beginning count as leading ones, with underscores between. -/
theorem exists_first_nonzero {zeros grouped digits : Text} (hzeros : LeadingZeros zeros)
    (hgrouped : Grouped grouped digits) (hpos : 1 ≤ denoted digits) :
    ∃ zeros' grouped' d rest, zeros ++ grouped = zeros' ++ grouped' ∧ LeadingZeros zeros' ∧
      Grouped grouped' (d :: rest) ∧ isNonzeroDigit d = true ∧ denoted (d :: rest) = denoted digits := by
  induction hgrouped generalizing zeros with
  | @last d hd =>
    rcases eq_zero_or_isNonzeroDigit hd with rfl | hnonzero
    · exact absurd hpos (by decide)
    · exact ⟨zeros, [d], d, [], rfl, hzeros, .last hd, hnonzero, rfl⟩
  | @digit d t digits hd h ih =>
    rcases eq_zero_or_isNonzeroDigit hd with rfl | hnonzero
    · rw [denoted_zero_cons] at hpos ⊢
      obtain ⟨zeros', grouped', e, rest, hsplit, hrest⟩ := ih hzeros.concat_zero hpos
      refine ⟨zeros', grouped', e, rest, ?_, hrest⟩
      rw [← hsplit, List.append_assoc, List.singleton_append]
    · exact ⟨zeros, d :: t, d, digits, rfl, hzeros, .digit hd h, hnonzero, rfl⟩
  | @underscore d t digits hd h ih =>
    rcases eq_zero_or_isNonzeroDigit hd with rfl | hnonzero
    · rw [denoted_zero_cons] at hpos ⊢
      obtain ⟨zeros', grouped', e, rest, hsplit, hrest⟩ := ih hzeros.concat_zero_underscore hpos
      refine ⟨zeros', grouped', e, rest, ?_, hrest⟩
      rw [← hsplit, List.append_assoc]
      rfl
    · exact ⟨zeros, d :: '_' :: t, d, digits, rfl, hzeros, .underscore hd h, hnonzero, rfl⟩

/-- No character of a numeral is white space. -/
theorem isWhiteSpace_of_mem_numeral {sign zeros grouped digits fraction : Text} {m : Nat} {n : Int}
    (hsign : Signed sign m n) (hzeros : LeadingZeros zeros) (hgrouped : Grouped grouped digits)
    (hfraction : ZeroFraction fraction) :
    ∀ c ∈ sign ++ (zeros ++ (grouped ++ fraction)), isWhiteSpace c = false := by
  simp only [List.forall_mem_append]
  refine ⟨?_, ?_, ?_, ?_⟩
  · cases hsign with
    | none => simp
    | plus => simp [isWhiteSpace_eq_false]
    | minus => simp [isWhiteSpace_eq_false]
  · rcases hzeros with rfl | ⟨more, rfl, hmore⟩
    · simp
    · refine List.forall_mem_cons.mpr ⟨rfl, fun c hc => ?_⟩
      rcases hmore c hc with rfl | rfl <;> rfl
  · intro c hc
    rcases hgrouped.mem c hc with h | rfl
    · rw [isDigit_iff] at h
      exact isWhiteSpace_eq_false ⟨by omega, by omega⟩
    · rfl
  · rcases hfraction with rfl | ⟨k, rfl⟩
    · simp
    · refine List.forall_mem_cons.mpr ⟨rfl, fun c hc => ?_⟩
      rw [List.eq_of_mem_replicate hc]
      rfl

/-- The plain form begins with a digit other than zero just in case that is written so: there is no
minus sign, and the digits are grouped behind leading zeros. -/
theorem simplify_eq_some_iff {d : Char} {digits : Text} (hd : isNonzeroDigit d = true) :
    simplify t = some (d :: digits) ∧ (∀ c ∈ d :: digits, isDigit c = true) ↔
      ∃ left sign zeros grouped fraction right,
        t = left ++ (sign ++ (zeros ++ (grouped ++ fraction))) ++ right ∧
        (∀ c ∈ left, isWhiteSpace c = true) ∧ (sign = [] ∨ sign = ['+']) ∧ LeadingZeros zeros ∧
        Grouped grouped (d :: digits) ∧ ZeroFraction fraction ∧
        ∀ c ∈ right, isWhiteSpace c = true := by
  constructor
  · rintro ⟨h, hdigits⟩
    obtain ⟨left, right, ht, hleft, hright⟩ := exists_trimmed isWhiteSpace t
    rw [simplify_eq rfl] at h
    generalize dropRightWhile isWhiteSpace (t.dropWhile isWhiteSpace) = core at h ht
    obtain ⟨bared, hbare, happend⟩ := Option.map_eq_some_iff.mp h
    -- a minus sign would come first in what is left
    have hnone : (splitSign core).1 = [] := by
      rcases splitSign_fst core with hfst | hfst
      · exact hfst
      · rw [hfst] at happend
        obtain rfl : '-' = d := (List.cons.inj happend).1
        cases hd
    rw [hnone, List.nil_append] at happend
    rw [happend] at hbare
    obtain ⟨zeros, grouped, fraction, hzeros, hgrouped, hfraction, hbody⟩ :=
      (bare_eq_some_iff hd).mp ⟨hbare, hdigits⟩
    have hcore := splitSign_fst_eq_nil_iff.mp (Prod.ext hnone hbody : splitSign core = ([], _))
    rcases hcore with rfl | ⟨rfl, -⟩
    · exact ⟨left, ['+'], zeros, grouped, fraction, right, ht, hleft, .inr rfl, hzeros, hgrouped,
        hfraction, hright⟩
    · exact ⟨left, [], zeros, grouped, fraction, right, ht, hleft, .inl rfl, hzeros, hgrouped,
        hfraction, hright⟩
  · rintro ⟨left, sign, zeros, grouped, fraction, right, rfl, hleft, hsign, hzeros, hgrouped,
      hfraction, hright⟩
    obtain ⟨hbare, hdigits⟩ :=
      (bare_eq_some_iff hd).mpr ⟨zeros, grouped, fraction, hzeros, hgrouped, hfraction, rfl⟩
    have hcore : ∀ c ∈ sign ++ (zeros ++ (grouped ++ fraction)), isWhiteSpace c = false := by
      rcases hsign with rfl | rfl
      · exact isWhiteSpace_of_mem_numeral (.none 0) hzeros hgrouped hfraction
      · exact isWhiteSpace_of_mem_numeral (.plus 0) hzeros hgrouped hfraction
    obtain ⟨rest, rfl⟩ := hgrouped.exists_cons
    have hsplit : splitSign (sign ++ (zeros ++ (d :: rest ++ fraction))) =
        ([], zeros ++ (d :: rest ++ fraction)) := by
      refine splitSign_fst_eq_nil_iff.mpr ?_
      rcases hsign with rfl | rfl
      · refine .inr ⟨rfl, ?_⟩
        rcases hzeros with rfl | ⟨more, rfl, -⟩
        · have hdigit := isDigit_of_isNonzeroDigit hd
          simpa using ⟨isDigit_ne hdigit rfl, isDigit_ne hdigit rfl⟩
        · simp
      · exact .inl rfl
    rw [simplify_eq (trimmed_eq hleft hcore (by simp) hright), hsplit, hbare]
    exact ⟨rfl, hdigits⟩

/-- **What is read.** A text is read as a number from one upwards just in case it denotes that number
by the grammar, and the number has no more digits than are read. -/
theorem parse_eq_some_iff_of_pos {m : Nat} (hm : 1 ≤ m) :
    parse t = some (m : Int) ↔ Denotes LeadingZeros t m ∧ m < 10 ^ maxLength := by
  constructor
  · intro h
    obtain ⟨s, hs, hread⟩ := Option.bind_eq_some_iff.mp h
    split_ifs at hread with hlength
    obtain ⟨d, digits, rfl, hd, hdigits, hvalue⟩ := (plainInt_eq_some_iff hm).mp hread
    obtain ⟨left, sign, zeros, grouped, fraction, right, rfl, hleft, hsign, hzeros, hgrouped,
      hfraction, hright⟩ := (simplify_eq_some_iff hd).mp ⟨hs, hdigits⟩
    have hsigned : Signed sign (denoted (d :: digits)) m := by
      rw [hvalue]
      rcases hsign with rfl | rfl
      · exact .none _
      · exact .plus _
    have hlt : denoted (d :: digits) < 10 ^ maxLength :=
      (denoted_lt hdigits).trans_le (Nat.pow_le_pow_right (by decide) hlength)
    exact ⟨.intro hleft hsigned hzeros hgrouped hfraction hright, hvalue ▸ hlt⟩
  · rintro ⟨h, hlt⟩
    generalize hn : (m : Int) = n at h
    cases h with
    | @intro left sign zeros grouped digits fraction right _ hleft hsigned hzeros hgrouped hfraction
        hright =>
      have hsign : (sign = [] ∨ sign = ['+']) ∧ m = denoted digits := by
        cases hsigned with
        | none => exact ⟨.inl rfl, Int.ofNat_inj.mp hn⟩
        | plus => exact ⟨.inr rfl, Int.ofNat_inj.mp hn⟩
        | minus => omega
      obtain ⟨hsign, rfl⟩ := hsign
      obtain ⟨zeros', grouped', d, rest, hsplit, hzeros', hgrouped', hd, hvalue⟩ :=
        exists_first_nonzero hzeros hgrouped hm
      have hs : simplify (left ++ (sign ++ (zeros ++ (grouped ++ fraction))) ++ right) =
          some (d :: rest) := by
        rw [← List.append_assoc zeros, hsplit, List.append_assoc zeros']
        exact ((simplify_eq_some_iff hd).mpr ⟨left, sign, zeros', grouped', fraction, right, rfl,
          hleft, hsign, hzeros', hgrouped', hfraction, hright⟩).1
      have hlength : (d :: rest).length ≤ maxLength := by
        have hle : 10 ^ rest.length ≤ denoted (d :: rest) := le_denoted hd
        rw [hvalue] at hle
        exact (Nat.pow_lt_pow_iff_right (by decide)).mp (hle.trans_lt hlt)
      rw [parse, hs, Option.bind_some, if_pos hlength, ← hn]
      exact (plainInt_eq_some_iff hm).mpr ⟨d, rest, rfl, hd, hgrouped'.isDigit, hvalue.symm⟩

end MarkdownCheck.Text.Numeral

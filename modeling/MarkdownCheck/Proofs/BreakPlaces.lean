import MarkdownCheck.Proofs.Evaluation
import MarkdownCheck.Proofs.LineEnds

/-!
# Long lines by the places where they could be broken

A line can be broken where a blank stands in it (`Text.BreaksAt`).  If it holds a line feed, that is a
blank and a place to break the line at, but no place behind it counts.  The rule about length reports
the lines that have a place with at least as many characters before it as the limit says
(`breaksBeyond_iff`).  How long a line is does not matter apart from that.

Lines that a text was split into hold no line feed, so of those the rule reports the ones with a blank
behind the first `limit` characters (`breaksBeyond_iff_of_notMem`).
-/

namespace MarkdownCheck

namespace Text

/-- A text can be broken at place `p`: a blank stands there, and no line feed before it. -/
structure BreaksAt (t : Text) (p : Nat) : Prop where
  exists_blank : ∃ c, t[p]? = some c ∧ isBlank c = true
  notMem_take : '\n' ∉ t.take p

variable {limit p : Nat} {c : Char} {t : Text}

theorem not_breaksAt_nil : ¬ BreaksAt [] p := by
  rintro ⟨⟨c, hc, -⟩, -⟩
  rw [List.getElem?_nil] at hc
  cases hc

theorem breaksAt_cons_zero : BreaksAt (c :: t) 0 ↔ isBlank c = true := by
  constructor
  · rintro ⟨⟨b, hb, hblank⟩, -⟩
    obtain rfl : c = b := by simpa using hb
    exact hblank
  · intro hblank
    exact ⟨⟨c, rfl, hblank⟩, by simp⟩

theorem breaksAt_cons_succ : BreaksAt (c :: t) (p + 1) ↔ c ≠ '\n' ∧ BreaksAt t p := by
  constructor
  · rintro ⟨hblank, hbefore⟩
    rw [List.take_succ_cons, List.mem_cons, not_or] at hbefore
    exact ⟨Ne.symm hbefore.1, hblank, hbefore.2⟩
  · rintro ⟨hc, hblank, hbefore⟩
    refine ⟨hblank, ?_⟩
    rw [List.take_succ_cons, List.mem_cons, not_or]
    exact ⟨Ne.symm hc, hbefore⟩

theorem BreaksAt.lt_length (h : t.BreaksAt p) : p < t.length := by
  obtain ⟨c, hc, -⟩ := h.exists_blank
  exact (List.getElem?_eq_some_iff.mp hc).1

/-- **The places beyond a limit.** A text breaks beyond its first `limit` characters just in case it
can be broken at a place that has those in front of it. -/
theorem breaksBeyond_iff : t.breaksBeyond limit = true ↔ ∃ p, limit ≤ p ∧ t.BreaksAt p := by
  induction t generalizing limit with
  | nil =>
    constructor
    · intro h
      cases h
    · rintro ⟨p, -, hp⟩
      exact absurd hp not_breaksAt_nil
  | cons c rest ih =>
    cases limit with
    | zero =>
      simp only [breaksBeyond, Bool.or_eq_true, Bool.and_eq_true, decide_eq_true_eq, ih]
      constructor
      · rintro (hc | ⟨hc, p, -, hp⟩)
        · exact ⟨0, le_rfl, breaksAt_cons_zero.mpr hc⟩
        · exact ⟨p + 1, by omega, breaksAt_cons_succ.mpr ⟨hc, hp⟩⟩
      · rintro ⟨p, -, hp⟩
        cases p with
        | zero => exact .inl (breaksAt_cons_zero.mp hp)
        | succ p =>
          obtain ⟨hc, hp⟩ := breaksAt_cons_succ.mp hp
          exact .inr ⟨hc, p, by omega, hp⟩
    | succ limit =>
      simp only [breaksBeyond, Bool.and_eq_true, decide_eq_true_eq, ih]
      constructor
      · rintro ⟨hc, p, hlimit, hp⟩
        exact ⟨p + 1, by omega, breaksAt_cons_succ.mpr ⟨hc, hp⟩⟩
      · rintro ⟨p, hlimit, hp⟩
        obtain ⟨p, rfl⟩ := Nat.exists_eq_add_of_le' (show 1 ≤ p by omega)
        obtain ⟨hc, hp⟩ := breaksAt_cons_succ.mp hp
        exact ⟨hc, p, by omega, hp⟩

/-- A place beyond a limit is beyond every lower one. -/
theorem breaksBeyond_of_le {lower : Nat} (hle : lower ≤ limit) (h : t.breaksBeyond limit = true) :
    t.breaksBeyond lower = true := by
  obtain ⟨p, hp, hbreaks⟩ := breaksBeyond_iff.mp h
  exact breaksBeyond_iff.mpr ⟨p, by omega, hbreaks⟩

theorem lt_length_of_breaksBeyond (h : t.breaksBeyond limit = true) : limit < t.length := by
  obtain ⟨p, hp, hbreaks⟩ := breaksBeyond_iff.mp h
  have hlength := hbreaks.lt_length
  omega

/-- In a line without line feeds any blank behind the first `limit` characters will do. -/
theorem breaksBeyond_iff_of_notMem (hline : '\n' ∉ t) :
    t.breaksBeyond limit = true ↔ ∃ c ∈ t.drop limit, isBlank c = true := by
  rw [breaksBeyond_iff]
  constructor
  · rintro ⟨p, hp, ⟨c, hc, hblank⟩, -⟩
    obtain ⟨m, rfl⟩ := Nat.exists_eq_add_of_le hp
    refine ⟨c, List.mem_iff_getElem?.mpr ⟨m, ?_⟩, hblank⟩
    rw [List.getElem?_drop]
    exact hc
  · rintro ⟨c, hc, hblank⟩
    obtain ⟨m, hm⟩ := List.mem_iff_getElem?.mp hc
    rw [List.getElem?_drop] at hm
    refine ⟨limit + m, by omega, ⟨c, hm, hblank⟩, ?_⟩
    intro hmem
    exact hline (List.mem_of_mem_take hmem)

/-- Under a limit of three: a blank right at place three, one before it, a line feed before it, and a
line feed right at it. -/
example : breaksBeyond 3 "abc d".toList = true ∧ breaksBeyond 3 "a bcde".toList = false ∧
    breaksBeyond 3 "a\nbc d".toList = false ∧ breaksBeyond 3 "abc\nd".toList = true := by
  decide

end Text

/-! ## The rule -/

/-- The lines reported are those that can be broken beyond the limit, and they are longer than that. -/
structure Document.BrokenBeyond (d : Document) (limit : Nat) (reported : List Int) : Prop where
  sorted : reported.Pairwise (· < ·)
  mem_iff : ∀ k, k ∈ reported ↔ ∃ (i : Nat) (t : Text), d.lines[i]? = some t ∧ k = i + 1 ∧
    ∃ (p : Nat) (c : Char), limit ≤ p ∧ t[p]? = some c ∧ isBlank c = true ∧ '\n' ∉ t.take p
  mem_iff_of_notMem : ∀ (i : Nat) (line : Text), d.lines[i]? = some line → '\n' ∉ line →
    (((i : Int) + 1) ∈ reported ↔ ∃ c ∈ line.drop limit, isBlank c = true)
  longer : ∀ (i : Nat) (line : Text), d.lines[i]? = some line → ((i : Int) + 1) ∈ reported →
    limit < line.length

theorem mem_ascending_linesWhere {d : Document} {p : Text → Bool} {i : Nat} {line : Text}
    (hline : d.lines[i]? = some line) :
    ((i : Int) + 1) ∈ ascending (d.linesWhere p) ↔ p line = true := by
  rw [mem_ascending, Document.mem_linesWhere]
  constructor
  · rintro ⟨j, other, hother, hp, hij⟩
    obtain rfl : i = j := by omega
    rw [hline, Option.some.injEq] at hother
    rw [hother]
    exact hp
  · intro hp
    exact ⟨i, line, hline, hp, rfl⟩

theorem brokenBeyond_linesWhere (d : Document) (limit : Nat) :
    d.BrokenBeyond limit (ascending (d.linesWhere (Text.breaksBeyond limit))) where
  sorted := pairwise_ascending _
  mem_iff k := by
    rw [mem_ascending, Document.mem_linesWhere]
    constructor
    · rintro ⟨i, line, hline, hbreaks, rfl⟩
      obtain ⟨p, hp, ⟨c, hc, hblank⟩, hbefore⟩ := Text.breaksBeyond_iff.mp hbreaks
      exact ⟨i, line, hline, rfl, p, c, hp, hc, hblank, hbefore⟩
    · rintro ⟨i, line, hline, rfl, p, c, hp, hc, hblank, hbefore⟩
      exact ⟨i, line, hline, Text.breaksBeyond_iff.mpr ⟨p, hp, ⟨c, hc, hblank⟩, hbefore⟩, rfl⟩
  mem_iff_of_notMem i line hline hfeed := by
    rw [mem_ascending_linesWhere hline, Text.breaksBeyond_iff_of_notMem hfeed]
  longer i line hline hmem :=
    Text.lt_length_of_breaksBeyond ((mem_ascending_linesWhere hline).mp hmem)

/-- **Long lines by the places where they could be broken.** Every limit within reach can be asked for,
and under it the rule about length answers, with exactly the lines that can be broken beyond the limit.
They are longer than that, and a higher limit reports no others.  Lines that a text was split into hold
no line feed, so any blank beyond the limit will do in them. -/
theorem long_lines_reported (d : Document) (limit : Nat) (hpos : 1 ≤ limit)
    (hreach : limit < 4294967295) :
    Options.resolve Rule.lineLength.parameter [("line_length", .int limit)] = .ok limit ∧
      (∀ fields, Options.resolve Rule.lineLength.parameter fields = .ok limit →
        ∃ reported, Rule.lineLength.evaluate d fields = .ok reported ∧ d.BrokenBeyond limit reported ∧
          ∀ (higher : Nat) (others : Fields), limit ≤ higher → higher < 4294967295 →
            Options.resolve Rule.lineLength.parameter others = .ok higher →
              ∃ fewer, Rule.lineLength.evaluate d others = .ok fewer ∧ fewer ⊆ reported) ∧
      ∀ (text : Text) (tokens : List Token), ∀ line ∈ (Document.ofText text tokens).lines,
        '\n' ∉ line := by
  refine ⟨Rule.resolve_lineLength hpos, fun fields hres => ?_, fun text tokens line hline => ?_⟩
  · refine ⟨_, Rule.evaluate_lineLength hres hreach, brokenBeyond_linesWhere d limit, ?_⟩
    intro higher others hle hbound hothers
    refine ⟨_, Rule.evaluate_lineLength hothers hbound, ?_⟩
    intro k hk
    obtain ⟨i, line, hline, hbreaks, rfl⟩ := Document.mem_linesWhere.mp (mem_ascending.mp hk)
    exact (mem_ascending_linesWhere hline).mpr (Text.breaksBeyond_of_le hle hbreaks)
  · exact (Text.isLine_of_mem_lines hline).2

/-- Two limits on a document with a line feed in a line, blanks right at the limit, and a blank that is
no space. -/
theorem long_lines_reported_two_limits :
    let d : Document := { lines := ["ab c", "a\nb c", "ab\n", "abcd\u2003", "a bcdef"].map String.toList }
    1 ≤ 2 ∧ 2 < 4294967295 ∧
      Options.resolve Rule.lineLength.parameter [("line_length", .text " +2.0 ")] = .ok (2 : Nat) ∧
      d.BrokenBeyond 2 [1, 3, 4] ∧ Rule.lineLength.evaluate d [("line_length", .int 4)] = .ok [4] ∧
      ([4] : List Int) ⊆ [1, 3, 4] := by
  intro d
  have hres : Options.resolve Rule.lineLength.parameter [("line_length", .text " +2.0 ")] =
      .ok (2 : Nat) := by rfl
  have hanswer : Rule.lineLength.evaluate d [("line_length", .text " +2.0 ")] = .ok [1, 3, 4] := by rfl
  have hhigher : Rule.lineLength.evaluate d [("line_length", .int 4)] = .ok [4] := by rfl
  obtain ⟨reported, hreported, hbroken, hmono⟩ :=
    (long_lines_reported d 2 (by decide) (by decide)).2.1 _ hres
  obtain rfl : reported = [1, 3, 4] := Except.ok.inj (hreported.symm.trans hanswer)
  obtain ⟨fewer, hfewer, hsub⟩ :=
    hmono 4 [("line_length", .int 4)] (by decide) (by decide) (by rfl)
  obtain rfl : fewer = [4] := Except.ok.inj (hfewer.symm.trans hhigher)
  exact ⟨by decide, by decide, hres, hbroken, hhigher, hsub⟩

end MarkdownCheck

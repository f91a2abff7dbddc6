import MarkdownCheck.Proofs.QuotedText
import MarkdownCheck.Report.Log

/-!
# The words of the log

Whoever reads the log sees no events but, for each of them, the name of its level and a text
(`Event.record`).  Here is what is written for which event, one lemma for each kind.

The warning about a name that no rule has begins in words that no other event begins with
(`isPrefix_message_iff`), and it quotes the name. So these warnings can be picked out of a log by
their words (`filter_record_eq`), and each of them counted (`count_record_eq`).
-/

namespace MarkdownCheck.Event

/-- What is written for an event: the name of its level, and its text. -/
def record (e : Event) : String × String := (e.level.label, e.message)

/-! ## One event -/

theorem record_unknownRule (name : String) :
    (unknownRule name).record =
      ("WARNING", "Ignoring configuration for unknown rule " ++ quoted name) :=
  rfl

theorem record_started (lines enabled given : Nat) :
    (started lines enabled given).record =
      ("INFO", "Linting " ++ toString lines ++ " lines with " ++ toString enabled ++ " of " ++
        toString given ++ " rules") :=
  rfl

theorem record_finished (rule : String) (count : Nat) :
    (finished rule count).record =
      ("DEBUG", "   " ++ rule ++ ": " ++ toString count ++ " violation(s)") :=
  rfl

theorem record_failed (rule : String) (failure : Failure) :
    (failed rule failure).record =
      ("WARNING", "Rule " ++ rule ++ " failed: " ++ failure.inspect) :=
  rfl

/-! ## Warnings about unknown names -/

/-- The name that an event reports as one that no rule has. -/
def unknownName? : Event → Option String
  | unknownRule name => some name
  | _ => none

/-- The four kinds of events differ in the first letter already. -/
theorem head?_message (e : Event) :
    e.message.toList.head? = some (match e with
      | unknownRule _ => 'I'
      | started _ _ _ => 'L'
      | finished _ _ => ' '
      | failed _ _ => 'R') := by
  unfold message
  cases e <;> simp only [String.toList_append, List.append_assoc] <;> rfl

/-- Only the warning about an unknown name begins as it does. -/
theorem isPrefix_message_iff {e : Event} :
    "Ignoring configuration for unknown rule ".toList <+: e.message.toList ↔
      ∃ name, e = .unknownRule name := by
  constructor
  · rintro ⟨rest, hrest⟩
    have hfirst := head?_message e
    rw [← hrest] at hfirst
    cases e with
    | unknownRule name => exact ⟨name, rfl⟩
    | started _ _ _ => cases hfirst
    | finished _ _ => cases hfirst
    | failed _ _ => cases hfirst
  · rintro ⟨name, rfl⟩
    exact ⟨(quoted name).toList, String.toList_append.symm⟩

theorem record_eq_iff {e : Event} {name : String} :
    e.record = ("WARNING", "Ignoring configuration for unknown rule " ++ quoted name) ↔
      e = .unknownRule name := by
  constructor
  · intro h
    have hmessage : e.message = "Ignoring configuration for unknown rule " ++ quoted name :=
      congrArg Prod.snd h
    obtain ⟨other, rfl⟩ := isPrefix_message_iff.mp
      ⟨(quoted name).toList, by rw [hmessage, String.toList_append]⟩
    have hquoted : quoted other = quoted name := (String.append_right_inj _).mp hmessage
    have hname := congrArg unquoted hquoted
    rw [unquoted_quoted, unquoted_quoted] at hname
    rw [Option.some.inj hname]
  · rintro rfl
    exact record_unknownRule name

/-! ## A log -/

/-- Whether what is written begins as the warnings about unknown names do. -/
def beginsIgnoring (entry : String × String) : Bool :=
  "Ignoring configuration for unknown rule ".toList.isPrefixOf entry.2.toList

theorem beginsIgnoring_record_iff {e : Event} :
    beginsIgnoring e.record = true ↔ ∃ name, e = .unknownRule name :=
  List.isPrefixOf_iff_prefix.trans isPrefix_message_iff

/-- The warnings about unknown names are what begins in these words. -/
theorem filter_record_eq (events : List Event) :
    (events.map record).filter beginsIgnoring =
      (events.filterMap unknownName?).map fun name =>
        ("WARNING", "Ignoring configuration for unknown rule " ++ quoted name) := by
  induction events with
  | nil => rfl
  | cons e rest ih =>
    rw [List.map_cons]
    by_cases h : ∃ name, e = .unknownRule name
    · rw [List.filter_cons_of_pos (beginsIgnoring_record_iff.mpr h), ih]
      obtain ⟨name, rfl⟩ := h
      rfl
    · have hnone : e.unknownName? = none := by
        cases e with
        | unknownRule name => exact absurd ⟨name, rfl⟩ h
        | _ => rfl
      rw [List.filter_cons_of_neg (mt beginsIgnoring_record_iff.mp h), ih,
        List.filterMap_cons_none hnone]

/-- An unknown name is warned of as often as its event occurs. -/
theorem count_record_eq (events : List Event) (name : String) :
    (events.map record).count
        ("WARNING", "Ignoring configuration for unknown rule " ++ quoted name) =
      events.count (.unknownRule name) := by
  rw [List.count, List.countP_map, List.count]
  refine List.countP_congr fun e _ => ?_
  simp only [Function.comp_apply, beq_iff_eq, record_eq_iff]

end MarkdownCheck.Event

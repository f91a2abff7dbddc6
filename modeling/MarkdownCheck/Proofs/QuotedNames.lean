import MarkdownCheck.Proofs.ConfigIssues
import MarkdownCheck.Proofs.LineEnds
import MarkdownCheck.Proofs.QuotedText
import MarkdownCheck.Proofs.UnknownNames
import Mathlib.Data.List.DropRight

/-!
# A message tells the name that it quotes

Three messages have the name of a rule in them, quoted between fixed words (`Wording`): that of a
failed look-up, the last line of what a configuration is rejected with when a name occurs again, and
the warning that no rule has a configured name.  From its words each of them tells the name
(`Wording.nameIn_quoting`), so messages about two names differ.

Nothing else is taken for one of them.  Other events of the log begin otherwise
(`nameIn_message_eq_some_iff`), and a configuration that is rejected for other issues has another last
line (`Layout.mem_issues_iff_nameIn`). The main statement is `messages_tell_quoted_names`.
-/

namespace MarkdownCheck

/-! ## Lines -/

/-- What stands behind the last line feed. -/
def lastLine (message : String) : String :=
  String.ofList (message.toList.rtakeWhile (· ≠ '\n'))

theorem lastLine_append {above line : String} (h : '\n' ∉ line.toList) :
    lastLine (above ++ "\n" ++ line) = line := by
  have hline : ∀ c ∈ line.toList.reverse, decide (c ≠ '\n') = true := by
    intro c hc
    have hne : c ≠ '\n' := by
      rintro rfl
      exact h (List.mem_reverse.mp hc)
    simpa using hne
  rw [lastLine, List.rtakeWhile, String.toList_append, String.toList_append, List.reverse_append,
    List.reverse_append, List.takeWhile_append_of_pos hline]
  simp

/-- No line end is printable. -/
theorem isLine_of_printable {t : Text} (h : ∀ c ∈ t, isPrintable c = true) : t.IsLine := by
  constructor
  · intro hmem
    exact absurd (h _ hmem) (by decide +kernel)
  · intro hmem
    exact absurd (h _ hmem) (by decide +kernel)

/-! ## Words around a name -/

/-- The words of a message in front of the name that it quotes, and those behind: no line ends, and
nothing else that does not print. -/
structure Wording where
  front : String
  back : String
  printable : (front.toList ++ back.toList).all isPrintable = true := by decide +kernel

namespace Wording

/-- No rule is found under a name. -/
def notFound : Wording where
  front := "Unknown rule "
  back := ""

/-- A name stands more than once in a configuration. -/
def repeated : Wording where
  front := "  Value error, Rule "
  back := " is configured more than once [type=value_error]"

/-- No rule has a name that stands in a configuration. -/
def ignored : Wording where
  front := "Ignoring configuration for unknown rule "
  back := ""

/-- The message about a name. -/
def quoting (w : Wording) (name : String) : String := w.front ++ quoted name ++ w.back

/-- The name that a message quotes between these words. -/
def nameIn (w : Wording) (message : String) : Option String :=
  (message.toList.dropPrefix? w.front.toList).bind fun rest =>
    (rest.dropSuffix? w.back.toList).bind fun form => unquoted (String.ofList form)

/-- **A message tells the name that it quotes.** -/
@[simp] theorem nameIn_quoting (w : Wording) (name : String) :
    w.nameIn (w.quoting name) = some name := by
  have hfront : (w.quoting name).toList.dropPrefix? w.front.toList =
      some ((quoted name).toList ++ w.back.toList) := by
    rw [List.dropPrefix?_eq_some_iff]
    exact ⟨w.front.toList, by simp [quoting], by simp⟩
  have hback : ((quoted name).toList ++ w.back.toList).dropSuffix? w.back.toList =
      some (quoted name).toList := by
    rw [List.dropSuffix?_eq_some_iff]
    exact ⟨w.back.toList, rfl, by simp⟩
  rw [nameIn, hfront, Option.bind_some, hback, Option.bind_some, String.ofList_toList,
    unquoted_quoted]

variable {w : Wording}

theorem quoting_injective {name other : String} (h : w.quoting name = w.quoting other) :
    name = other := by
  rw [quoting, quoting, String.append_assoc, String.append_assoc] at h
  exact (quoted_append_inj ((String.append_right_inj _).mp h)).1

/-- A message from which a name is read begins with the words in front of it. -/
theorem isPrefix_of_nameIn {message name : String} (h : w.nameIn message = some name) :
    w.front.toList <+: message.toList := by
  obtain ⟨rest, hrest, -⟩ := Option.bind_eq_some_iff.mp h
  obtain ⟨front, hmessage, hfront⟩ := List.dropPrefix?_eq_some_iff.mp hrest
  rw [hmessage, eq_of_beq hfront]
  exact List.prefix_append _ _

theorem isPrintable_of_mem_quoting {name : String} {c : Char} (h : c ∈ (w.quoting name).toList) :
    isPrintable c = true := by
  have hwords := List.all_eq_true.mp w.printable
  rw [quoting, String.toList_append, String.toList_append, List.mem_append, List.mem_append] at h
  rcases h with (h | h) | h
  · exact hwords c (List.mem_append_left _ h)
  · exact isPrintable_of_mem_quoted h
  · exact hwords c (List.mem_append_right _ h)

/-- **A message is one line**, whatever the name. -/
theorem isLine_quoting (w : Wording) (name : String) : Text.IsLine (w.quoting name).toList :=
  isLine_of_printable fun _ => isPrintable_of_mem_quoting

end Wording

/-! ## The log -/

theorem message_unknownRule (name : String) :
    (Event.unknownRule name).message = Wording.ignored.quoting name := by
  have hrecord := congrArg Prod.snd (Event.record_unknownRule name)
  rw [Wording.quoting, Wording.ignored, String.append_empty]
  exact hrecord

/-- Only the warning about an unknown name is read as one. -/
theorem nameIn_message_eq_some_iff {e : Event} {name : String} :
    Wording.ignored.nameIn e.message = some name ↔ e = .unknownRule name := by
  constructor
  · intro h
    obtain ⟨other, rfl⟩ := Event.isPrefix_message_iff.mp (Wording.isPrefix_of_nameIn h)
    rw [message_unknownRule, Wording.nameIn_quoting] at h
    rw [Option.some.inj h]
  · rintro rfl
    rw [message_unknownRule, Wording.nameIn_quoting]

/-- A name reported as unknown is a configured one in upper case. -/
theorem exists_field_of_unknownRule {l : Layout} {c : Config} (h : l.read = .ok c) {d : Document}
    {rules : List Rule} {name : String} (hmem : .unknownRule name ∈ d.log c rules) :
    ∃ field ∈ l.settings, upper field.1 = name := by
  have hname : name ∈ (d.log c rules).filterMap Event.unknownName? :=
    List.mem_filterMap.mpr ⟨_, hmem, rfl⟩
  rw [filterMap_unknownName?_log, (Layout.read_eq_ok_iff.mp h).unknown_eq, List.mem_map] at hname
  obtain ⟨field, hfield, hupper⟩ := hname
  exact ⟨field, (List.mem_filter.mp hfield).1, hupper⟩

/-! ## Rejected configurations -/

namespace Problem

/-- The line of a message that tells of a problem. -/
def line (p : Problem) : String := "  " ++ p.text ++ " [type=" ++ p.label ++ "]"

/-- A problem of a configuration that is about a value and quotes no name. -/
inductive Nameless : Problem → Prop
  | notSwitch : Nameless .notSwitch
  | unclearSwitch : Nameless .unclearSwitch
  | notObject : Nameless .notObject

theorem line_repeatedRule (name : String) :
    (repeatedRule name).line = Wording.repeated.quoting name := by
  have hfront : "  " ++ "Value error, Rule " = "  Value error, Rule " := by rfl
  have hback : " is configured more than once" ++ (" [type=" ++ "value_error" ++ "]") =
      " is configured more than once [type=value_error]" := by rfl
  calc (repeatedRule name).line
      = "  " ++ "Value error, Rule " ++ quoted name ++
          (" is configured more than once" ++ (" [type=" ++ "value_error" ++ "]")) := by
        unfold line text label
        simp only [String.append_assoc]
    _ = Wording.repeated.quoting name := by
        rw [hfront, hback]
        rfl

theorem newline_notMem_line_repeatedRule (name : String) :
    '\n' ∉ (repeatedRule name).line.toList := by
  rw [line_repeatedRule]
  exact (Wording.repeated.isLine_quoting name).2

theorem Nameless.newline_notMem_line {p : Problem} (h : p.Nameless) : '\n' ∉ p.line.toList := by
  cases h <;> decide +kernel

theorem Nameless.nameIn_line {p : Problem} (h : p.Nameless) : Wording.repeated.nameIn p.line = none := by
  cases h <;> decide +kernel

end Problem

theorem Value.nameless_of_toBool {v : Value} {problem : Problem} (h : v.toBool = .error problem) :
    problem.Nameless := by
  have houtcome := outcome_toBool v
  rw [h] at houtcome
  cases houtcome with
  | unclear _ _ => exact .unclearSwitch
  | other _ _ => exact .notSwitch

/-- The message of a rejection ends with the line of its last issue. -/
theorem lastLine_message {subject : String} {earlier : List Issue} (last : Issue)
    (h : '\n' ∉ last.problem.line.toList) :
    lastLine (Rejection.message ⟨subject, earlier ++ [last]⟩) = last.problem.line := by
  have hlines : (earlier ++ [last]).flatMap Issue.lines =
      earlier.flatMap Issue.lines ++ [last.location, last.problem.line] := by
    rw [List.flatMap_append, List.flatMap_singleton]
    rfl
  have hends : ∀ heading : String,
      heading :: (earlier.flatMap Issue.lines ++ [last.location, last.problem.line]) =
        (heading :: (earlier.flatMap Issue.lines ++ [last.location])) ++ [last.problem.line] := by
    simp
  rw [Rejection.message, hlines, hends,
    String.intercalate_append_of_ne_nil (List.cons_ne_nil _ _) (List.cons_ne_nil _ _),
    String.intercalate_singleton, lastLine_append h]

theorem nameless_of_mem_flatten {fields : Fields} {blocks : List (List Issue)}
    (h : List.Forall₂ Config.SettingIssues fields blocks) :
    ∀ i ∈ blocks.flatten, i.problem.Nameless := by
  induction h with
  | nil => simp
  | cons hfirst _ ih =>
    rw [List.flatten_cons, List.forall_mem_append]
    refine ⟨?_, ih⟩
    cases hfirst with
    | usable _ => simp
    | refused _ hbool => simp [Value.nameless_of_toBool hbool, Problem.Nameless.notObject]

namespace Layout

variable {l : Layout}

/-- The issues of a configuration are about values, or the last one is about a name that occurs
again. -/
theorem HasIssues.cases_last {issues : List Issue} (h : l.HasIssues issues) :
    (∀ i ∈ issues, i.problem.Nameless) ∨
      ∃ earlier name, issues = earlier ++ [⟨["rules"], .repeatedRule name⟩] ∧
        (∀ i ∈ earlier, i.problem.Nameless) ∧ Config.FirstRepeated l.settings name := by
  obtain @⟨first, rest, hfirst, hrest⟩ := h
  have hvalues : ∀ i ∈ first, i.problem.Nameless := by
    generalize l.switch = fallback at hfirst
    cases hfirst with
    | absent => simp
    | converts _ => simp
    | refused hbool => simpa using Value.nameless_of_toBool hbool
  cases hrest with
  | unusable _ hblocks =>
    exact .inl (List.forall_mem_append.mpr ⟨hvalues, nameless_of_mem_flatten hblocks⟩)
  | @repeated name _ hrepeated => exact .inr ⟨first, name, rfl, hvalues, hrepeated⟩
  | none _ _ =>
    rw [List.append_nil]
    exact .inl hvalues

variable {rejection : Rejection} {name : String}

/-- A rejection that is about values alone tells no name, and any other one the name of its last
issue. -/
theorem cases_lastLine (h : l.read = .error rejection) :
    (∀ i ∈ rejection.issues, i.problem.Nameless) ∧
        Wording.repeated.nameIn (lastLine rejection.message) = none ∨
      ∃ earlier name, rejection.issues = earlier ++ [⟨["rules"], .repeatedRule name⟩] ∧
        (∀ i ∈ earlier, i.problem.Nameless) ∧ Config.FirstRepeated l.settings name ∧
        lastLine rejection.message = Wording.repeated.quoting name := by
  obtain ⟨issues, hissues⟩ := l.exists_hasIssues
  obtain ⟨hne, rfl⟩ : issues ≠ [] ∧ rejection = ⟨Config.title, issues⟩ := by
    rcases hissues.read_eq with ⟨-, c, hread⟩ | ⟨hne, hread⟩
    · rw [hread] at h
      cases h
    · rw [hread] at h
      exact ⟨hne, (Except.error.inj h).symm⟩
  rcases hissues.cases_last with hvalues | ⟨earlier, name, rfl, hvalues, hrepeated⟩
  · obtain ⟨earlier, last, rfl⟩ := (List.eq_nil_or_concat' issues).resolve_left hne
    have hlast := hvalues last (by simp)
    refine .inl ⟨hvalues, ?_⟩
    rw [lastLine_message last hlast.newline_notMem_line, hlast.nameIn_line]
  · refine .inr ⟨earlier, name, rfl, hvalues, hrepeated, ?_⟩
    rw [lastLine_message ⟨["rules"], .repeatedRule name⟩
      (Problem.newline_notMem_line_repeatedRule name), Problem.line_repeatedRule]

/-- **A rejection tells a name just in case it is about one that occurs again.** -/
theorem mem_issues_iff_nameIn (h : l.read = .error rejection) :
    ⟨["rules"], .repeatedRule name⟩ ∈ rejection.issues ↔
      Wording.repeated.nameIn (lastLine rejection.message) = some name := by
  have hnot : ¬ (Problem.repeatedRule name).Nameless := by
    intro hvalue
    cases hvalue
  rcases cases_lastLine h with ⟨hvalues, hnone⟩ | ⟨earlier, other, hissues, hvalues, -, hline⟩
  · rw [hnone]
    exact iff_of_false (fun hmem => hnot (hvalues _ hmem)) (by simp)
  · rw [hline, Wording.nameIn_quoting, hissues, List.mem_append, List.mem_singleton]
    constructor
    · rintro (hmem | heq)
      · exact absurd (hvalues _ hmem) hnot
      · simpa [eq_comm] using heq
    · rintro ⟨⟩
      exact .inr rfl

/-- The name is one that was written, in upper case, and the message quotes it. -/
theorem lastLine_of_mem_issues (h : l.read = .error rejection)
    (hmem : ⟨["rules"], .repeatedRule name⟩ ∈ rejection.issues) :
    lastLine rejection.message = Wording.repeated.quoting name ∧
      Config.FirstRepeated l.settings name := by
  have htold := (mem_issues_iff_nameIn h).mp hmem
  rcases cases_lastLine h with ⟨-, hnone⟩ | ⟨-, other, -, -, hrepeated, hline⟩
  · rw [hnone] at htold
    cases htold
  · rw [hline, Wording.nameIn_quoting] at htold
    obtain rfl := Option.some.inj htold
    exact ⟨hline, hrepeated⟩

end Layout

/-! ## The three messages -/

/-- A failed look-up is about the name that was looked for, and shows what it says in quotes. -/
theorem Rule.argument_of_find {rules : List Rule} {name : String} {fault : Fault}
    (h : find rules name = .error fault) :
    fault.argument = some (Wording.notFound.quoting name) ∧
      fault.message = quoted (Wording.notFound.quoting name) := by
  obtain ⟨rfl, -⟩ := find_eq_error_iff.mp h
  have hargument : (Fault.unknownRule name).argument = some (Wording.notFound.quoting name) := by
    unfold Fault.argument
    simp only [Wording.quoting, Wording.notFound, String.append_empty]
  refine ⟨hargument, ?_⟩
  unfold Fault.message
  rw [hargument]
  rfl

/-- **A message tells the name that it quotes.**  Every quoted name is read back, shows where it ends
and is one printable line, so whatever words stand around it, they tell the name, and messages about
two names differ.

What a failed look-up says quotes the name as it was given, and so it does when it is itself shown in
quotes.  The last line of what a configuration is rejected with tells a name just in case one is the
same as an earlier one, and quotes that in upper case. A message of the log tells a name just in case
it warns of one that no rule has; it quotes a configured name in upper case and is one printable
line. -/
theorem messages_tell_quoted_names :
    (∀ name, unquoted (quoted name) = some name ∧
      (∀ other more rest, quoted name ++ more = quoted other ++ rest →
        name = other ∧ more = rest) ∧
      (∀ c ∈ (quoted name).toList, isPrintable c = true) ∧ Text.IsLine (quoted name).toList) ∧
    (∀ (w : Wording) (name : String), w.nameIn (w.quoting name) = some name ∧
      ∀ other, name ≠ other → w.quoting name ≠ w.quoting other) ∧
    (∀ rules name fault, Rule.find rules name = .error fault →
      fault.argument = some (Wording.notFound.quoting name) ∧
      (unquoted fault.message).bind Wording.notFound.nameIn = some name) ∧
    (∀ (l : Layout) (rejection : Rejection), l.read = .error rejection → ∀ name,
      let issue : Issue := ⟨["rules"], .repeatedRule name⟩
      (issue ∈ rejection.issues ↔
        Wording.repeated.nameIn (lastLine rejection.message) = some name) ∧
      (issue ∈ rejection.issues →
        lastLine rejection.message = Wording.repeated.quoting name ∧
        Config.FirstRepeated l.settings name)) ∧
    ∀ (l : Layout) (c : Config) (d : Document) (rules : List Rule), l.read = .ok c →
      ∀ e ∈ d.log c rules, ∀ name,
        (e = .unknownRule name ↔ Wording.ignored.nameIn e.message = some name) ∧
        (e = .unknownRule name →
          e.message = Wording.ignored.quoting name ∧
          (∃ field ∈ l.settings, upper field.1 = name) ∧
          (∀ c ∈ e.message.toList, isPrintable c = true) ∧
          Text.lines e.message.toList = [e.message.toList]) := by
  refine ⟨?_, ?_, ?_, ?_, ?_⟩
  · intro name
    exact ⟨unquoted_quoted name, fun _ _ _ => quoted_append_inj,
      fun _ => isPrintable_of_mem_quoted, isLine_of_printable fun _ => isPrintable_of_mem_quoted⟩
  · intro w name
    exact ⟨w.nameIn_quoting name, fun other => mt Wording.quoting_injective⟩
  · intro rules name fault hfind
    obtain ⟨hargument, hmessage⟩ := Rule.argument_of_find hfind
    refine ⟨hargument, ?_⟩
    rw [hmessage, unquoted_quoted, Option.bind_some, Wording.nameIn_quoting]
  · intro l rejection hread name issue
    exact ⟨Layout.mem_issues_iff_nameIn hread, Layout.lastLine_of_mem_issues hread⟩
  · intro l c d rules hread e he name
    refine ⟨nameIn_message_eq_some_iff.symm, ?_⟩
    rintro rfl
    rw [message_unknownRule]
    exact ⟨rfl, exists_field_of_unknownRule hread he,
      fun _ => Wording.isPrintable_of_mem_quoting,
      Text.lines_of_isLine (Wording.ignored.isLine_quoting name)⟩

/-- Names with both quotes, with what looks like an escape, and with line ends of other kinds. -/
theorem messages_tell_quoted_names_awkward :
    let name := "it's \"\\x41\"\n"
    let twice : Layout :=
      .flat [("a\u2028'", .bool true), ("default", .null), ("A\u2028'", .object [])]
    let rejection : Rejection :=
      ⟨"LintConfig", [⟨["default"], .notSwitch⟩, ⟨["rules"], .repeatedRule "A\u2028'"⟩]⟩
    let once : Layout := .parts none [("\\n\"\r", .bool false)]
    let c : Config := ⟨true, [("\\N\"\r", .switch false)]⟩
    let d : Document := { lines := [] }
    let e : Event := .unknownRule "\\N\"\r"
    let rules : List Rule := [Rule.listStep, Rule.hardTabs]
    Rule.find rules name = .error (.unknownRule name) ∧
      (Fault.unknownRule name).argument =
        some "Unknown rule 'it\\'s \"\\\\x41\"\\n'" ∧
      (unquoted (Fault.unknownRule name).message).bind Wording.notFound.nameIn = some name ∧
      twice.read = .error rejection ∧
      lastLine rejection.message =
        "  Value error, Rule \"A\\u2028'\" is configured more than once [type=value_error]" ∧
      Wording.repeated.nameIn (lastLine rejection.message) = some "A\u2028'" ∧
      once.read = .ok c ∧ e ∈ d.log c rules ∧
      e.message = "Ignoring configuration for unknown rule '\\\\N\"\\r'" ∧
      Text.lines e.message.toList = [e.message.toList] := by
  intro name twice rejection once c d e rules
  obtain ⟨-, -, hlookups, hrejections, hlogs⟩ := messages_tell_quoted_names
  have hfind : Rule.find rules name = .error (.unknownRule name) :=
    Rule.find_eq_error_iff.mpr ⟨rfl, by decide +kernel⟩
  have htwice : twice.read = .error rejection := by rfl
  have honce : once.read = .ok c := by rfl
  have he : e ∈ d.log c rules := by decide +kernel
  obtain ⟨hargument, hlookup⟩ := hlookups _ _ _ hfind
  have hname := (hrejections _ _ htwice "A\u2028'").1.mp (by decide)
  have hline := ((hrejections _ _ htwice "A\u2028'").2 (by decide)).1
  obtain ⟨hmessage, -, -, hlines⟩ := (hlogs _ _ _ _ honce e he _).2 rfl
  refine ⟨hfind, ?_, hlookup, htwice, ?_, hname, honce, he, ?_, hlines⟩
  · rw [hargument]
    decide +kernel
  · rw [hline]
    decide +kernel
  · rw [hmessage]
    decide +kernel

end MarkdownCheck

import CardService.Audit
import CardService.Proofs.Json.Members
import CardService.Proofs.Json.Printable
import CardService.Proofs.Text.Lines

/-!
# CardService — audit files

An audit file is read line by line. What a line says of an event is told here by the members of the
record in it (`Tells`), and a record tells of one event only (`Tells.unique`). No text in an event can
end its line or pass for another member, since all texts are escaped. Times are bounded: they are
those of a clock that counts milliseconds in 64 bits (`ClockTime`).

Main results:

* `rendered_newline_notMem`, `rendered_tells` — an event is written on one line, and read back from it.
* `append_line` — one more event is one more line, and all earlier ones stay as they were.
* `append_lines` — so it is for any events, written one after the other.
-/

namespace CardService.Audit

open Text (Ended linesOf)

/-! ## Records -/

/-- The record has the members of an event of its kind and no others, and they hold what is written of
the event, and when it happened. -/
inductive Tells (record : Members) (time : ClockTime) : Event → Prop
  | call {entry : CallEntry}
      (keys : record.map Prod.fst = ["event", "timestamp_ms", "operation", "outcome", "error_kind"])
      (kind : record.get? "event" = some (.string "sdk_operation"))
      (clock : ∃ h, record.get? "timestamp_ms" = some (.number (.whole time.toNat h)))
      (operation : record.get? "operation" = some (.string entry.operation))
      (outcome : record.get? "outcome" = some (.string entry.outcome))
      (errorKind : record.get? "error_kind" = some (.ofOption .string entry.errorKind)) :
      Tells record time (.call entry)
  | subscription {entry : SubscriptionEntry}
      (keys : record.map Prod.fst = ["event", "timestamp_ms", "subscription_id", "reason", "detail"])
      (kind : record.get? "event" = some (.string "subscription_notification"))
      (clock : ∃ h, record.get? "timestamp_ms" = some (.number (.whole time.toNat h)))
      (subscription : record.get? "subscription_id" =
        some (.ofOption .string entry.subscription))
      (reason : record.get? "reason" = some (.string entry.reason))
      (detail : record.get? "detail" = some (.string entry.detail)) :
      Tells record time (.subscription entry)

theorem tells_toRecord (time : ClockTime) (event : Event) : Tells (event.toRecord time) time event := by
  cases event with
  | call entry => exact .call rfl rfl ⟨_, rfl⟩ rfl rfl rfl
  | subscription entry => exact .subscription rfl rfl ⟨_, rfl⟩ rfl rfl rfl

section Unique

variable {record : Members} {key : String}

theorem string_unique {s s' : String} (h : record.get? key = some (.string s))
    (h' : record.get? key = some (.string s')) : s = s' :=
  Json.string.inj (Option.some.inj (h.symm.trans h'))

/-- An absent text is written as no text could be. -/
theorem optional_unique {text text' : Option String}
    (h : record.get? key = some (.ofOption .string text))
    (h' : record.get? key = some (.ofOption .string text')) : text = text' := by
  have hsame := Option.some.inj (h.symm.trans h')
  cases text with
  | none =>
    cases text' with
    | none => rfl
    | some _ => cases hsame
  | some s =>
    cases text' with
    | none => cases hsame
    | some s' => exact congrArg some (Json.string.inj hsame)

theorem clock_unique {time time' : ClockTime}
    (h : ∃ h, record.get? key = some (.number (.whole time.toNat h)))
    (h' : ∃ h, record.get? key = some (.number (.whole time'.toNat h))) : time = time' := by
  obtain ⟨_, h⟩ := h
  obtain ⟨_, h'⟩ := h'
  have hsame := Number.whole.inj (Json.number.inj (Option.some.inj (h.symm.trans h')))
  exact UInt64.toNat_inj.mp (Int.ofNat_inj.mp hsame)

/-- A record tells of no other event, and of no other time. -/
theorem Tells.unique {time time' : ClockTime} {event event' : Event} (h : Tells record time event)
    (h' : Tells record time' event') : time = time' ∧ event = event' := by
  cases h with
  | @call entry _ hkind hclock hoperation houtcome herror =>
    cases h' with
    | @call entry' _ _ hclock' hoperation' houtcome' herror' =>
      obtain ⟨operation, outcome, error⟩ := entry
      obtain ⟨operation', outcome', error'⟩ := entry'
      obtain rfl : operation = operation' := string_unique hoperation hoperation'
      obtain rfl : outcome = outcome' := string_unique houtcome houtcome'
      obtain rfl : error = error' := optional_unique herror herror'
      exact ⟨clock_unique hclock hclock', rfl⟩
    | subscription _ hkind' => exact absurd (string_unique hkind hkind') (by decide)
  | @subscription entry _ hkind hclock hsubscription hreason hdetail =>
    cases h' with
    | call _ hkind' => exact absurd (string_unique hkind hkind') (by decide)
    | @subscription entry' _ _ hclock' hsubscription' hreason' hdetail' =>
      obtain ⟨id, reason, detail⟩ := entry
      obtain ⟨id', reason', detail'⟩ := entry'
      obtain rfl : id = id' := optional_unique hsubscription hsubscription'
      obtain rfl : reason = reason' := string_unique hreason hreason'
      obtain rfl : detail = detail' := string_unique hdetail hdetail'
      exact ⟨clock_unique hclock hclock', rfl⟩

end Unique

/-! ## Lines -/

/-- The line of an event and its time, without the end of the line. -/
def rendered (entry : ClockTime × Event) : String := (Json.object (entry.2.toRecord entry.1)).text

theorem toRecord_allWhole (time : ClockTime) (event : Event) :
    (Json.object (event.toRecord time)).allWhole := by
  rcases event with ⟨operation, outcome, _ | error⟩ | ⟨_ | id, reason, detail⟩ <;> rfl

theorem toRecord_keysDistinct (time : ClockTime) (event : Event) :
    (Json.object (event.toRecord time)).keysDistinct := by
  rcases event with ⟨operation, outcome, _ | error⟩ | ⟨_ | id, reason, detail⟩ <;> rfl

theorem toRecord_depth (time : ClockTime) (event : Event) :
    (Json.object (event.toRecord time)).depth = 1 := by
  rcases event with ⟨operation, outcome, _ | error⟩ | ⟨_ | id, reason, detail⟩ <;> rfl

/-- Whatever an event says, it says it on one line. -/
theorem rendered_newline_notMem (entry : ClockTime × Event) : '\n' ∉ (rendered entry).toList := by
  intro hmem
  rw [rendered, Json.text, String.toList_ofList] at hmem
  exact (Json.write_printable _ (toRecord_allWhole _ _) _ hmem).ne_newline rfl

/-- The line of an event is read as a record that tells of this event. -/
theorem rendered_tells (entry : ClockTime × Event) :
    ∃ record, Json.parse (rendered entry) = .ok (.object record) ∧
      Tells record entry.1 entry.2 := by
  obtain ⟨time, event⟩ := entry
  have hdepth : (Json.object (event.toRecord time)).depth ≤ Json.nestingLimit := by
    rw [toRecord_depth]
    decide
  exact ⟨event.toRecord time, (Json.parse_text (toRecord_allWhole time event)
    (toRecord_keysDistinct time event)).1 hdepth, tells_toRecord time event⟩

/-! ## Files -/

section Files

variable {file : String}

/-- Events are written one after the other. -/
theorem append_cons (file : String) (entry : ClockTime × Event)
    (entries : List (ClockTime × Event)) :
    append file (entry :: entries) = append (append file [entry]) entries := rfl

theorem append_singleton (file : String) (entry : ClockTime × Event) :
    append file [entry] = file ++ (rendered entry ++ "\n") := rfl

/-- What is written does not depend on what the file holds, and leaves that as it is. -/
theorem toList_append (file : String) (entries : List (ClockTime × Event)) :
    (append file entries).toList =
      file.toList ++ entries.flatMap fun entry => (rendered entry).toList ++ ['\n'] := by
  induction entries generalizing file with
  | nil => exact (List.append_nil _).symm
  | cons entry entries ih =>
    have hline : (rendered entry ++ "\n").toList = (rendered entry).toList ++ ['\n'] :=
      String.toList_append
    rw [append_cons, ih, append_singleton, String.toList_append, hline, List.flatMap_cons,
      List.append_assoc]

/-- One more event is one more line. -/
theorem append_line (hfile : Ended file) (entry : ClockTime × Event) :
    linesOf (append file [entry]) = linesOf file ++ [rendered entry] ∧
      Ended (append file [entry]) := by
  rw [append_singleton]
  refine ⟨Text.linesOf_append hfile (rendered_newline_notMem entry), ?_⟩
  rw [← String.append_assoc]
  exact Text.ended_append_newline _

/-- Each of the events finds a file whose last line is ended, and leaves one behind. -/
theorem linesOf_append_entries (hfile : Ended file) (entries : List (ClockTime × Event)) :
    linesOf (append file entries) = linesOf file ++ entries.map rendered ∧
      Ended (append file entries) := by
  induction entries generalizing file with
  | nil => exact ⟨(List.append_nil _).symm, hfile⟩
  | cons entry entries ih =>
    obtain ⟨hline, hended⟩ := append_line hfile entry
    obtain ⟨hlines, hended⟩ := ih hended
    rw [append_cons]
    refine ⟨?_, hended⟩
    rw [hlines, hline, List.append_assoc, List.singleton_append, List.map_cons]

/-- A file that is empty or ends with a line break goes on, after any events, with one line for each of
them, in the order in which they were written: the file holds what it held, and then the lines and
their ends, and nothing else. No line has a line break inside, and each is read as a record that tells
of its event, and of no other. The clock is bounded: the time of an event is any that fits in 64 bits.
A later one would be written in full too, but it would be read back as the double nearest to it. -/
theorem append_lines (hfile : Ended file) (entries : List (ClockTime × Event)) :
    (append file entries).toList =
      file.toList ++ entries.flatMap (fun entry => (rendered entry).toList ++ ['\n']) ∧
    linesOf (append file entries) = linesOf file ++ entries.map rendered ∧
    Ended (append file entries) ∧
    ∀ entry ∈ entries, '\n' ∉ (rendered entry).toList ∧
      ∃ record, Json.parse (rendered entry) = .ok (.object record) ∧
        Tells record entry.1 entry.2 ∧
        ∀ time event, Tells record time event → (time, event) = entry := by
  obtain ⟨hlines, hended⟩ := linesOf_append_entries hfile entries
  refine ⟨toList_append file entries, hlines, hended, fun entry _ => ?_⟩
  obtain ⟨record, hparse, htells⟩ := rendered_tells entry
  refine ⟨rendered_newline_notMem entry, record, hparse, htells, fun time event htells' => ?_⟩
  obtain ⟨htime, hevent⟩ := htells'.unique htells
  exact Prod.ext htime hevent

/-- An event whose detail would pass for another line, and for the members of another event. -/
def forged : ClockTime × Event :=
  (7, .subscription (⟨some ⟨"a\"\x7d\n"⟩, .updateDropped,
    "\"\x7d\n\x7b\"event\":\"sdk_operation\"\x7d\n\x00"⟩ : SubscriptionEvent))

/-- Two lines in front, two lines behind: the detail stays in its line, and in its member. -/
theorem append_lines_forged :
    Ended "x\ny\n" ∧
      linesOf (append "x\ny\n" [(3, .call (CallEvent.mk "get_card" (some "decode"))), forged]) =
        ["x", "y", rendered (3, .call ⟨"get_card", "error", some "decode"⟩), rendered forged] ∧
      (∃ record, Json.parse (rendered forged) = .ok (.object record) ∧
        Tells record forged.1 forged.2) := by
  have hfile : Ended "x\ny\n" := .inr ⟨"x\ny", rfl⟩
  obtain ⟨-, hlines, -, hread⟩ :=
    append_lines hfile [(3, .call (CallEvent.mk "get_card" (some "decode"))), forged]
  obtain ⟨-, record, hparse, htells, -⟩ := hread forged (List.mem_cons_of_mem _ List.mem_cons_self)
  have hbefore : linesOf "x\ny\n" = ["x", "y"] := by
    decide +kernel
  refine ⟨hfile, ?_, record, hparse, htells⟩
  rw [hlines, hbefore]
  rfl

end Files

end CardService.Audit

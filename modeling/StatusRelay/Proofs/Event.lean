/-
# Events read back

An event is read from its own JSON, and from the same members in any other order. The text names
the event itself, but for a timestamp in a leap second inside a minute, which is written like the
next second. The reader keeps what it has found so far in a draft; a draft of an event holds some
of its members, and each member in the text adds one more.
-/

import Mathlib.Data.List.Nodup
import StatusRelay.Event.Json
import StatusRelay.Proofs.Json
import StatusRelay.Proofs.Timestamp

namespace StatusRelay
namespace Event

/-! ### Drafts of an event -/

/-- What has been read of an event once these members have been. -/
def Draft.of (e : Event) (seen : List Member) : Draft where
  id := if .id ∈ seen then some e.id else none
  provider := if .provider ∈ seen then some e.provider else none
  service := if .service ∈ seen then some e.service else none
  message := if .message ∈ seen then some e.message else none
  timestamp := if .timestamp ∈ seen then some e.timestamp else none

variable (e : Event) {seen : List Member} {m : Member}

theorem Draft.has_of : (Draft.of e seen).has m = decide (m ∈ seen) := by
  cases m <;> simp only [Draft.has, Draft.of] <;> split_ifs <;> simp_all

/-- A draft with every member is the event. -/
theorem Draft.finish_of (h : ∀ m, m ∈ seen) : (Draft.of e seen).finish = .ok e := by
  simp only [Draft.of, if_pos (h _)]
  rfl

/-! ### Members -/

/-- The event that the JSON of an event names. -/
def asWritten : Event := { e with timestamp := e.timestamp.asWritten }

/-- A member of an event. -/
def member (m : Member) : String × Json := (m.name, .str (String.ofList (e.text m)))

theorem ofName?_name (m : Member) : Member.ofName? m.name = some m := by
  cases m <;> rfl

theorem readString_quote (s rest : List Char) :
    readString (Json.quote s ++ rest) = .ok (s, rest) := by
  have hgap : Json.skipGaps (Json.quote s ++ rest) =
      '"' :: (s.flatMap Json.escape ++ '"' :: rest) := by
    simp [Json.quote, Json.skipGaps, Json.isGap]
  rw [readString, hgap]
  exact Json.stringBody_flatMap_escape s [] rest

/-- The value of a member adds it to the draft. -/
theorem readMember_quote (seen : List Member) (m : Member) (rest : List Char) :
    readMember (Draft.of e.asWritten seen) m (Json.quote (e.text m) ++ rest) =
      .ok (Draft.of e.asWritten (m :: seen), rest) := by
  rw [readMember, readString_quote]
  cases m <;>
    simp [text, asWritten, Draft.of, bind, Except.bind, Timestamp.readRelaxed_write, pure,
      Except.pure]

/-- The text of a member after the quote that begins its name, in front of `tail`. -/
def memberText (m : Member) (tail : List Char) : List Char :=
  m.name.toList.flatMap Json.escape ++ '"' :: ':' :: (Json.quote (e.text m) ++ tail)

theorem writeMembers_cons (m : Member) (ms : List Member) (rest : List Char) :
    Json.writeMembers rest ((m :: ms).map e.member) =
      ',' :: '"' :: e.memberText m (Json.writeMembers rest (ms.map e.member)) := by
  simp [Json.writeMembers, Json.writeBefore, member, memberText, Json.quote]

/-- A member that is not in the draft yet. -/
theorem readNamed_member (h : m ∉ seen) (tail : List Char) :
    readNamed (Draft.of e.asWritten seen) m.name.toList (':' :: (Json.quote (e.text m) ++ tail)) =
      .ok (Draft.of e.asWritten (m :: seen), tail) := by
  have hcolon : afterColon (':' :: (Json.quote (e.text m) ++ tail)) =
      .ok (Json.quote (e.text m) ++ tail) := rfl
  rw [readNamed, String.ofList_toList, ofName?_name]
  simp only [Draft.has_of, h, decide_false]
  rw [hcolon]
  exact readMember_quote e seen m tail

theorem readMembers_last (h : m ∉ seen) (fuel : Nat) (rest : List Char) :
    readMembers (fuel + 1) (Draft.of e.asWritten seen) (e.memberText m ('\x7d' :: rest)) =
      .ok (Draft.of e.asWritten (m :: seen), rest) := by
  rw [readMembers, memberText, Json.stringBody_flatMap_escape]
  simp only [List.reverse_nil, List.nil_append, bind, Except.bind, readNamed_member e h]
  rfl

theorem readMembers_more (h : m ∉ seen) (fuel : Nat) (tail : List Char) :
    readMembers (fuel + 1) (Draft.of e.asWritten seen) (e.memberText m (',' :: '"' :: tail)) =
      readMembers fuel (Draft.of e.asWritten (m :: seen)) tail := by
  rw [readMembers, memberText, Json.stringBody_flatMap_escape]
  simp only [List.reverse_nil, List.nil_append, bind, Except.bind, readNamed_member e h]
  rfl

/-- **The members are read one after another,** none of them being in the draft already. -/
theorem readMembers_write {ms : List Member} {fuel : Nat} (rest : List Char)
    (hfuel : ms.length < fuel) (hnew : (ms.reverse ++ m :: seen).Nodup) :
    readMembers fuel (Draft.of e.asWritten seen)
        (e.memberText m (Json.writeMembers ('\x7d' :: rest) (ms.map e.member))) =
      .ok (Draft.of e.asWritten (ms.reverse ++ m :: seen), rest) := by
  obtain ⟨fuel, rfl⟩ := Nat.exists_eq_add_one.2 (Nat.zero_lt_of_lt hfuel)
  have hm : m ∉ seen := (List.nodup_cons.1 hnew.of_append_right).1
  induction ms generalizing fuel m seen with
  | nil => exact e.readMembers_last hm fuel rest
  | cons m' ms ih =>
    rw [List.reverse_cons, List.append_assoc, List.singleton_append] at hnew ⊢
    have hm' : m' ∉ m :: seen := (List.nodup_cons.1 hnew.of_append_right).1
    have hrest : ms.length < fuel := Nat.lt_of_succ_lt_succ hfuel
    obtain ⟨fuel, rfl⟩ := Nat.exists_eq_add_one.2 (Nat.zero_lt_of_lt hrest)
    rw [writeMembers_cons, readMembers_more e hm]
    exact ih hnew fuel hrest hm'

theorem length_le_writeMembers (ms : List Member) (rest : List Char) :
    ms.length ≤ (Json.writeMembers rest (ms.map e.member)).length := by
  induction ms with
  | nil => exact Nat.zero_le _
  | cons m ms ih =>
    rw [writeMembers_cons]
    simp only [memberText, List.length_cons, List.length_append]
    omega

/-- **The members of an event are read in whichever order they stand.** -/
theorem read_members {ms : List Member} (h : ms.Perm Member.all) :
    read (Json.writeBefore [] (.obj (ms.map e.member))) = .ok e.asWritten := by
  have hall : ∀ m, m ∈ ms := fun m => h.mem_iff.2 (by cases m <;> decide)
  have hnodup : ms.Nodup := h.nodup_iff.2 (by decide)
  obtain ⟨m, ms, rfl⟩ := List.exists_cons_of_ne_nil (List.ne_nil_of_mem (hall .id))
  have htext : Json.writeBefore [] (.obj ((m :: ms).map e.member)) =
      '\x7b' :: '"' :: e.memberText m (Json.writeMembers ['\x7d'] (ms.map e.member)) := by
    simp [Json.writeBefore, member, memberText, Json.quote]
  have hfuel : ms.length <
      (e.memberText m (Json.writeMembers ['\x7d'] (ms.map e.member))).length + 1 := by
    have hcommas := e.length_le_writeMembers ms ['\x7d']
    simp only [memberText, List.length_cons, List.length_append]
    omega
  have hread := e.readMembers_write [] hfuel (List.reverse_cons ▸ List.nodup_reverse.2 hnodup)
  have hfinish : (Draft.of e.asWritten (ms.reverse ++ [m])).finish = .ok e.asWritten :=
    Draft.finish_of e.asWritten fun m' => List.reverse_cons ▸ List.mem_reverse.2 (hall m')
  have hpart : readPart ('\x7b' :: '"' :: e.memberText m
      (Json.writeMembers ['\x7d'] (ms.map e.member))) = .ok (e.asWritten, []) := by
    change (readMembers _ (Draft.of e.asWritten []) _ >>= fun p =>
      p.1.finish >>= fun x => pure (x, p.2)) = _
    rw [hread]
    simp only [bind, Except.bind, hfinish]
    rfl
  rw [htext, read, hpart]
  rfl

theorem asWritten_eq_iff : e.asWritten = e ↔ e.timestamp.Regular := by
  rw [← Timestamp.asWritten_eq_iff]
  constructor
  · intro h
    exact congrArg Event.timestamp h
  · intro h
    rw [asWritten, h]

/-- **An event survives its JSON,** its key always, and the event itself exactly when its timestamp
is not in a leap second inside a minute; the event that is read has the next second for it. And so
does the text of the same members in any other order. -/
theorem read_write : read e.write = .ok e.asWritten ∧ (read e.write).map key = .ok e.key ∧
    (read e.write = .ok e ↔ e.timestamp.Regular) ∧
    ∀ ms : List Member, ms.Perm Member.all →
      read (Json.writeBefore [] (.obj (ms.map e.member))) = .ok e.asWritten := by
  have hread : read e.write = .ok e.asWritten := e.read_members (List.Perm.refl _)
  refine ⟨hread, by rw [hread]; rfl, ?_, fun _ h => e.read_members h⟩
  rw [hread, ← e.asWritten_eq_iff]
  exact ⟨Except.ok.inj, congrArg Except.ok⟩

/-- An event whose timestamp is a leap second after second 9 is read back with second 10. -/
theorem leap_second_inside_minute :
    let event := fun t : Timestamp => (⟨"INC-1", "OpenAI", "API", "Investigating", t⟩ : Event)
    let e := event { day := 20249, second := 50589, nano := 1000000000 }
    e.timestamp.write = "2025-06-10T14:03:10Z".toList ∧
      read e.write = .ok (event { day := 20249, second := 50590, nano := 0 }) ∧
      read e.write ≠ .ok e := by
  intro event e
  have hnext : e.asWritten = event { day := 20249, second := 50590, nano := 0 } := by decide
  have hread : read e.write = .ok e.asWritten := e.read_members (List.Perm.refl _)
  rw [hnext] at hread
  refine ⟨by decide +kernel, hread, ?_⟩
  rw [hread]
  decide

end Event
end StatusRelay

/-
# What happens in a poll

The parts of a poll that several invariants have to follow, each with all that it can come to:

| part | comes to |
| --- | --- |
| the publish is moved on | a delivery, told, which may wake others, or nothing but a new bus |
| a consumer ends | its subscription is given up, its end is told |
-/

import StatusRelay.Proofs.Bus.Publish
import StatusRelay.Proofs.World.Moves

namespace StatusRelay

namespace Bus

/-- A publish that waits sets nobody going. -/
theorem wakes_drive_of_none {b : Bus} (h : b.drive.2.1 = none) : b.drive.2.2 = [] := by
  rcases hr : b.start? with _ | r
  · rw [drive_of_free (start?_eq_none.1 hr)]
  · rw [drive_of_start? hr] at h ⊢
    rcases hres : b.reserve r.request r.held r.gone r.ahead with ⟨b', r'⟩
    rw [hres] at h
    simp only at h ⊢
    rcases ha : r'.ahead with _ | ⟨id, ahead⟩
    · simp [ha] at h
    · rfl

end Bus

namespace World

/-- **A publish that is moved on** is completed, or it waits. -/
theorem drive_cases (w : World) (i : Nat) (event : Event) :
    (∃ ticket count more, w.bus.gate.holder? = some i ∧ w.bus.drive.2.1 = some (ticket, count) ∧
      w.drive i event = ({ w with
        bus := w.bus.drive.1
        ready := w.ready ++ more
        log := ⟨w.now, i, .delivered event count⟩ :: w.log }, some count)) ∨
      ∃ bus, (bus = w.bus ∨ w.bus.drive.2.1 = none ∧ bus = w.bus.drive.1) ∧
        w.drive i event = ({ w with bus := bus }, none) := by
  unfold drive
  split
  · rename_i hholder
    rcases hd : w.bus.drive with ⟨bus, _ | ⟨ticket, count⟩, parties⟩
    · have hnil : parties = [] := by
        have := Bus.wakes_drive_of_none (b := w.bus) (by rw [hd])
        rwa [hd] at this
      subst hnil
      exact Or.inr ⟨bus, Or.inr ⟨rfl, rfl⟩, rfl⟩
    · obtain ⟨more, h⟩ := withBus_eq w bus parties
      simp only [h]
      exact Or.inl ⟨ticket, count, more, hholder, rfl, rfl⟩
  · exact Or.inr ⟨w.bus, Or.inl rfl, rfl⟩

theorem endConsumer_eq (w : World) (i : Nat) (c : Consumer) (stage : ConsumerStage) : ∃ more,
    w.endConsumer i c stage = { w with
      bus := (w.bus.unsubscribe c.queue).1
      tasks := w.tasks.set i (.consumer { c with stage := stage })
      ready := w.ready ++ more
      log := ⟨w.now, i, .ended⟩ :: w.log } := by
  obtain ⟨more, h⟩ := withBus_eq (w.put i (.consumer { c with stage := stage }))
    (w.bus.unsubscribe c.queue).1 (w.bus.unsubscribe c.queue).2
  refine ⟨more, ?_⟩
  simp only [endConsumer, h]
  rfl

end World
end StatusRelay

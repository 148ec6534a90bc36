/-
# What a past says

The events due to a subscription are read off the past. They change with two kinds of happenings
only, which are therefore the ones that a step has to account for:

| what happens | the events due to a subscription that exists |
| --- | --- |
| a publish is called | as before, `due_called` |
| it gets past the gate | as before, `due_entered` |
| it is completed | one more, if the subscription is older than its entry, `due_completed` |
| anything else | as before, `due_quiet` |

In an `Ordered` past publishes are numbered in the order of their calls and get past the gate in
that order. So what is due to a younger subscription is the end of what is due to an older one.
-/

import StatusRelay.Proofs.Bus.Session

namespace StatusRelay
namespace Happening

variable {past : List Happening}

/-- Whether a happening has nothing to do with any publish's way to its end. -/
def isQuiet : Happening → Bool
  | called _ _ => false
  | entered _ => false
  | completed _ _ => false
  | _ => true

/-- The publishes called and those past the gate are in one order. -/
structure Ordered (past : List Happening) : Prop where
  numbered : (calls past).map (·.1) = List.range (calls past).length
  forward : (entries past).Pairwise (· < ·)
  known : ∀ call ∈ entries past, call < (calls past).length
  later : past.Pairwise fun h h' => ∀ call event, h' = .called call event → h ≠ .entered call
  finished : ∀ call, isDone past call = true → call ∈ entries past

/-! ### Looking things up -/

theorem mem_entries {call : Nat} : call ∈ entries past ↔ .entered call ∈ past := by
  unfold entries
  rw [List.mem_filterMap]
  constructor
  · rintro ⟨h, hm, he⟩
    cases h <;> simp_all
  · intro h
    exact ⟨_, h, rfl⟩

theorem mem_calls {call : Nat} {event : Event} :
    (call, event) ∈ calls past ↔ .called call event ∈ past := by
  unfold calls
  rw [List.mem_filterMap]
  constructor
  · rintro ⟨h, hm, he⟩
    cases h <;> simp_all
  · intro h
    exact ⟨_, h, rfl⟩

theorem since_suffix (id : Nat) (past : List Happening) : since id past <:+ past :=
  (List.tail_suffix _).trans (List.dropWhile_suffix _)

/-- The moment of a subscription divides the past in two. -/
theorem before_append_since {id : Nat} (h : .subscribed id ∈ past) :
    past = before id past ++ .subscribed id :: since id past := by
  have hne : past.dropWhile (· != subscribed id) ≠ [] := by
    intro hd
    have := List.dropWhile_eq_nil_iff.1 hd _ h
    simp at this
  have hhead := List.head_dropWhile_not (· != subscribed id) hne
  obtain ⟨x, rest, hx⟩ := List.exists_cons_of_ne_nil hne
  simp only [hx, List.head_cons, bne_eq_false_iff_eq] at hhead
  unfold before since
  subst hhead
  rw [hx, List.tail_cons, ← hx, List.takeWhile_append_dropWhile]

theorem since_append {id : Nat} (h : .subscribed id ∈ past) (more : List Happening) :
    since id (past ++ more) = since id past ++ more := by
  have hne : past.dropWhile (· != subscribed id) ≠ [] := by
    intro hd
    have := List.dropWhile_eq_nil_iff.1 hd _ h
    simp at this
  unfold since
  rw [List.dropWhile_append, if_neg (by simpa using hne), List.tail_append_of_ne_nil hne]

theorem since_of_notMem {id : Nat} (h : .subscribed id ∉ past) : since id past = [] := by
  unfold since
  rw [List.dropWhile_eq_nil_iff.2]
  · rfl
  · intro x hx
    simpa using ne_of_mem_of_not_mem hx h

/-- Nothing has happened since a subscription that was made just now. -/
theorem since_subscribed {id : Nat} (h : .subscribed id ∉ past) :
    since id (past ++ [.subscribed id]) = [] := by
  have hd : past.dropWhile (· != subscribed id) = [] :=
    List.dropWhile_eq_nil_iff.2 fun x hx => by simpa using ne_of_mem_of_not_mem hx h
  unfold since
  rw [List.dropWhile_append, hd]
  simp

theorem calls_append (past more : List Happening) :
    calls (past ++ more) = calls past ++ calls more := List.filterMap_append

theorem entries_append (past more : List Happening) :
    entries (past ++ more) = entries past ++ entries more := List.filterMap_append

theorem isDone_append (past more : List Happening) (call : Nat) :
    isDone (past ++ more) call = (isDone past call || isDone more call) := List.any_append

theorem receivedBy_append (id : Nat) (past more : List Happening) :
    receivedBy id (past ++ more) = receivedBy id past ++ receivedBy id more :=
  List.filterMap_append

/-! ### Quiet happenings -/

section Quiet

variable {more : List Happening} (hq : ∀ h ∈ more, isQuiet h = true)

include hq

theorem calls_quiet : calls more = [] := by
  refine List.filterMap_eq_nil_iff.2 fun h hm => ?_
  have := hq h hm
  cases h <;> simp_all [isQuiet]

theorem entries_quiet : entries more = [] := by
  refine List.filterMap_eq_nil_iff.2 fun h hm => ?_
  have := hq h hm
  cases h <;> simp_all [isQuiet]

theorem isDone_quiet (call : Nat) : isDone more call = false := by
  refine List.any_eq_false.2 fun h hm => ?_
  have := hq h hm
  cases h <;> simp_all [isQuiet]

/-- A quiet happening keeps the order. -/
theorem Ordered.quiet (ho : Ordered past) : Ordered (past ++ more) where
  numbered := by rw [calls_append, calls_quiet hq, List.append_nil]; exact ho.numbered
  forward := by rw [entries_append, entries_quiet hq, List.append_nil]; exact ho.forward
  known := by
    rw [entries_append, entries_quiet hq, calls_append, calls_quiet hq, List.append_nil,
      List.append_nil]
    exact ho.known
  later := by
    have hno : ∀ h ∈ more, ∀ call event, h ≠ .called call event := by
      rintro h hm call event rfl
      simpa [isQuiet] using hq _ hm
    refine List.pairwise_append.2 ⟨ho.later, ?_, fun h _ h' hm' call event he => ?_⟩
    · exact List.Pairwise.imp_of_mem (R := fun _ _ => True)
        (fun _ hm' _ call event he => absurd he (hno _ hm' call event))
        (List.pairwise_of_forall fun _ _ => trivial)
    · exact absurd he (hno h' hm' call event)
  finished := by
    intro call hd
    rw [isDone_append, isDone_quiet hq, Bool.or_false] at hd
    rw [entries_append]
    exact List.mem_append_left _ (ho.finished call hd)

/-- **Quiet happenings leave what is due.** -/
theorem due_quiet {id : Nat} (h : .subscribed id ∈ past) : due id (past ++ more) = due id past := by
  have hne : ∀ call, .entered call ∉ more := fun call hm => by simpa [isQuiet] using hq _ hm
  unfold due isDue
  rw [calls_append, calls_quiet hq, List.append_nil, since_append h]
  congr 1
  refine List.filter_congr fun c _ => ?_
  rw [isDone_append, isDone_quiet hq, Bool.or_false]
  simp [hne]

end Quiet

/-! ### The way of a publish -/

namespace Ordered

/-- The calls stand in the order of their numbers. -/
theorem sorted (ho : Ordered past) : (calls past).Pairwise (·.1 < ·.1) := by
  have h : ((calls past).map (·.1)).Pairwise (· < ·) := by
    rw [ho.numbered]
    exact List.pairwise_lt_range
  exact List.pairwise_map.1 h

theorem lt_of_mem_calls (ho : Ordered past) {c : Nat × Event} (hc : c ∈ calls past) :
    c.1 < (calls past).length := by
  have h := List.mem_map_of_mem (f := (·.1)) hc
  rwa [ho.numbered, List.mem_range] at h

theorem nil : Ordered [] where
  numbered := rfl
  forward := List.Pairwise.nil
  known := by simp [entries]
  later := List.Pairwise.nil
  finished := by simp [isDone]

theorem call (ho : Ordered past) (event : Event) :
    Ordered (past ++ [.called (calls past).length event]) := by
  have hc : calls (past ++ [.called (calls past).length event]) =
      calls past ++ [((calls past).length, event)] := calls_append _ _
  have he : entries (past ++ [.called (calls past).length event]) =
      entries past := (entries_append _ _).trans (List.append_nil _)
  refine ⟨?_, he ▸ ho.forward, fun x hx => ?_, ?_, fun x hx => ?_⟩
  · rw [hc, List.map_append, ho.numbered, List.length_append, List.length_singleton,
      List.range_succ]
    rfl
  · rw [he] at hx
    rw [hc, List.length_append]
    exact Nat.lt_add_right _ (ho.known x hx)
  · refine List.pairwise_append.2 ⟨ho.later, List.pairwise_singleton _ _, ?_⟩
    rintro h hm h' hm' x e rfl rfl
    obtain ⟨rfl, rfl⟩ := Happening.called.inj (List.mem_singleton.1 hm')
    exact Nat.lt_irrefl _ (ho.known _ (mem_entries.2 hm))
  · rw [isDone_append] at hx
    rw [he]
    exact ho.finished x (by simpa [isDone] using hx)

theorem enter (ho : Ordered past) {call : Nat} (hc : call < (calls past).length)
    (hlast : ∀ x ∈ entries past, x < call) : Ordered (past ++ [.entered call]) := by
  have he : entries (past ++ [.entered call]) = entries past ++ [call] :=
    entries_append _ _
  have hcs : calls (past ++ [.entered call]) = calls past :=
    (calls_append _ _).trans (List.append_nil _)
  refine ⟨hcs ▸ ho.numbered, ?_, fun x hx => ?_, ?_, fun x hx => ?_⟩
  · rw [he]
    refine List.pairwise_append.2 ⟨ho.forward, List.pairwise_singleton _ _, fun x hx y hy => ?_⟩
    rw [List.mem_singleton.1 hy]
    exact hlast x hx
  · rw [he, List.mem_append, List.mem_singleton] at hx
    rw [hcs]
    rcases hx with hx | rfl
    · exact ho.known x hx
    · exact hc
  · refine List.pairwise_append.2 ⟨ho.later, List.pairwise_singleton _ _, ?_⟩
    rintro h hm h' hm' x e rfl
    simp at hm'
  · rw [isDone_append] at hx
    rw [he]
    exact List.mem_append_left _ (ho.finished x (by simpa [isDone] using hx))

theorem complete (ho : Ordered past) {call : Nat} (hc : call ∈ entries past)
    (count : Nat) : Ordered (past ++ [.completed call count]) := by
  have he : entries (past ++ [.completed call count]) = entries past :=
    (entries_append _ _).trans (List.append_nil _)
  have hcs : calls (past ++ [.completed call count]) = calls past :=
    (calls_append _ _).trans (List.append_nil _)
  refine ⟨hcs ▸ ho.numbered, he ▸ ho.forward, ?_, ?_, fun x hx => ?_⟩
  · rw [he, hcs]
    exact ho.known
  · refine List.pairwise_append.2 ⟨ho.later, List.pairwise_singleton _ _, ?_⟩
    rintro h hm h' hm' x e rfl
    simp at hm'
  · rw [isDone_append, Bool.or_eq_true] at hx
    rw [he]
    rcases hx with hx | hx
    · exact ho.finished x hx
    · simp only [isDone, List.any_cons, List.any_nil, Bool.or_false, beq_iff_eq] at hx
      exact hx ▸ hc

end Ordered

section Due

variable {id : Nat} (h : .subscribed id ∈ past)

include h

/-- A publish that is called is due to nobody yet. -/
theorem due_called (ho : Ordered past) (event : Event) :
    due id (past ++ [.called (calls past).length event]) = due id past := by
  have hnew : .entered (calls past).length ∉ since id past := fun hm =>
    Nat.lt_irrefl _ (ho.known _ (mem_entries.2 ((since_suffix id past).subset hm)))
  have hcs : calls [.called (calls past).length event] = [((calls past).length, event)] := rfl
  have hsame : ∀ x, isDone [.called (calls past).length event] x = false := fun _ => rfl
  unfold due isDue
  rw [calls_append, since_append h, hcs]
  simp only [isDone_append, hsame, Bool.or_false]
  simp [hnew]

/-- A publish that gets past the gate is not yet due to anybody. -/
theorem due_entered {call : Nat} (hc : isDone past call = false) :
    due id (past ++ [.entered call]) = due id past := by
  have hcs : calls (past ++ [.entered call]) = calls past :=
    (calls_append _ _).trans (List.append_nil _)
  have hsame : ∀ x, isDone [.entered call] x = false := fun _ => rfl
  unfold due isDue
  rw [hcs, since_append h]
  simp only [isDone_append, hsame, Bool.or_false]
  congr 1
  refine List.filter_congr fun c _ => ?_
  by_cases hx : c.1 = call
  · simp [hx, hc]
  · simp [hx]

theorem isDue_completed (call count x : Nat) :
    isDue id (past ++ [.completed call count]) x =
      ((since id past).contains (.entered x) && (isDone past x || call == x)) := by
  unfold isDue
  rw [since_append h, isDone_append]
  simp [isDone]

/-- **A publish that is completed becomes due** to the subscriptions older than its entry. -/
theorem due_completed (ho : Ordered past) {call : Nat} {event : Event}
    (hc : (call, event) ∈ calls past) (hnd : isDone past call = false)
    (hlast : ∀ x ∈ entries past, x ≤ call) (count : Nat) :
    due id (past ++ [.completed call count]) =
      due id past ++ if .entered call ∈ since id past then [event] else [] := by
  obtain ⟨l₁, l₂, hl⟩ := List.append_of_mem hc
  have hs := ho.sorted
  rw [hl, List.pairwise_append, List.pairwise_cons] at hs
  obtain ⟨-, ⟨habove, -⟩, hbelow⟩ := hs
  have hcs : calls (past ++ [.completed call count]) = calls past :=
    (calls_append _ _).trans (List.append_nil _)
  -- The calls before it are due or not as before, those after it have not got past the gate.
  have h₁ : l₁.filter (fun c => isDue id (past ++ [.completed call count]) c.1) =
      l₁.filter fun c => isDue id past c.1 := by
    refine List.filter_congr fun c hm => ?_
    have := hbelow c hm _ List.mem_cons_self
    rw [isDue_completed h, beq_false_of_ne (Nat.ne_of_gt this), Bool.or_false]
    rfl
  have hout : ∀ c ∈ l₂, (since id past).contains (.entered c.1) = false := by
    intro c hm
    rw [List.contains_eq_mem, decide_eq_false_iff_not]
    intro he
    have hle := hlast _ (mem_entries.2 ((since_suffix id past).subset he))
    have := habove c hm
    omega
  have h₂ : l₂.filter (fun c => isDue id (past ++ [.completed call count]) c.1) = [] := by
    refine List.filter_eq_nil_iff.2 fun c hm => ?_
    rw [isDue_completed h, hout c hm]
    simp
  have h₂' : l₂.filter (fun c => isDue id past c.1) = [] := by
    refine List.filter_eq_nil_iff.2 fun c hm => ?_
    unfold isDue
    rw [hout c hm]
    simp
  have hnot : isDue id past call = false := by
    unfold isDue
    rw [hnd, Bool.and_false]
  unfold due
  rw [hcs, hl, List.filter_append, List.filter_append, List.filter_cons, List.filter_cons, h₁, h₂,
    h₂', hnot, isDue_completed h]
  by_cases he : .entered call ∈ since id past
  · simp [he]
  · simp [he]

end Due

/-! ### Two subscriptions -/

/-- A choice that goes on once it has begun chooses an end. -/
theorem filter_suffix {α : Type} {p : α → Bool} {l : List α}
    (h : l.Pairwise fun a b => p a = true → p b = true) : l.filter p <:+ l := by
  induction l with
  | nil => exact List.suffix_rfl
  | cons a l ih =>
    obtain ⟨ha, hl⟩ := List.pairwise_cons.1 h
    rcases hp : p a with _ | _
    · rw [List.filter_cons_of_neg (by simp [hp])]
      exact (ih hl).trans (List.suffix_cons a l)
    · have hall : ∀ b ∈ a :: l, p b = true := by
        intro b hb
        rcases List.mem_cons.1 hb with rfl | hb
        · exact hp
        · exact ha b hb hp
      have heq := List.filter_eq_self.2 hall
      simp only [heq, List.suffix_rfl]

/-- What got past the gate after something that is due to a subscription is younger than the
subscription as well. -/
theorem Ordered.mem_since_of_lt (ho : Ordered past) {id call call' : Nat}
    (h : .entered call ∈ since id past) (h' : .entered call' ∈ past) (hlt : call < call') :
    .entered call' ∈ since id past := by
  by_cases hs : .subscribed id ∈ past
  · have hp := before_append_since hs
    have hf := ho.forward
    rw [hp] at h' hf
    rw [entries_append, List.pairwise_append] at hf
    rcases List.mem_append.1 h' with h' | h'
    · have := hf.2.2 _ (mem_entries.2 h') _ (mem_entries.2 (List.mem_cons_of_mem _ h))
      omega
    · simpa using h'
  · rw [since_of_notMem hs] at h
    simp at h

/-- **What is due to a younger subscription is the end of what is due to an older one.** -/
theorem due_suffix (ho : Ordered past) {id id' : Nat} (h : since id past <:+ since id' past) :
    due id past <:+ due id' past := by
  have himp : ∀ call, isDue id past call = true → isDue id' past call = true := by
    intro call hc
    unfold isDue at hc ⊢
    rw [Bool.and_eq_true, List.contains_eq_mem, decide_eq_true_eq] at hc ⊢
    exact ⟨h.subset hc.1, hc.2⟩
  have heq : (calls past).filter (fun c => isDue id past c.1) =
      ((calls past).filter fun c => isDue id' past c.1).filter fun c => isDue id past c.1 := by
    rw [List.filter_filter]
    refine List.filter_congr fun c _ => ?_
    rcases hc : isDue id past c.1 with _ | _
    · rfl
    · rw [himp _ hc]
      rfl
  unfold due
  rw [heq]
  refine List.IsSuffix.map _ (filter_suffix ?_)
  refine (ho.sorted.filter _).imp_of_mem fun {a b} _ hb hlt ha => ?_
  have hb := (List.mem_filter.1 hb).2
  unfold isDue at ha hb ⊢
  rw [Bool.and_eq_true, List.contains_eq_mem, decide_eq_true_eq] at ha hb ⊢
  exact ⟨ho.mem_since_of_lt ha.1 ((since_suffix _ _).subset hb.1) hlt, hb.2⟩

/-- One of two subscriptions is the younger. -/
theorem due_suffix_or (ho : Ordered past) (id id' : Nat) :
    due id past <:+ due id' past ∨ due id' past <:+ due id past :=
  (List.suffix_or_suffix_of_suffix (since_suffix id past) (since_suffix id' past)).imp
    (due_suffix ho) (due_suffix ho)

/-- **All completed publishes are due to a subscription made before the first publish.** -/
theorem due_of_early (ho : Ordered past) {id : Nat} (h : .subscribed id ∈ past)
    (hearly : calls (before id past) = []) :
    due id past = ((calls past).filter fun c => isDone past c.1).map (·.2) := by
  unfold due
  congr 1
  refine List.filter_congr fun c hc => ?_
  rcases hd : isDone past c.1 with _ | _
  · unfold isDue
    rw [hd, Bool.and_false]
  · have hp := before_append_since h
    have he := mem_entries.1 (ho.finished _ hd)
    have hcalled := mem_calls.1 hc
    have hlater := ho.later
    rw [hp, List.pairwise_append] at hlater
    rw [hp] at he hcalled
    have hafter : .called c.1 c.2 ∈ subscribed id :: since id past := by
      refine (List.mem_append.1 hcalled).resolve_left fun hb => ?_
      have := mem_calls.2 hb
      rw [hearly] at this
      simp at this
    have hs : .entered c.1 ∈ subscribed id :: since id past :=
      (List.mem_append.1 he).resolve_left fun hb =>
        hlater.2.2 _ hb _ hafter c.1 c.2 rfl rfl
    unfold isDue
    rw [hd, Bool.and_true, List.contains_eq_mem, decide_eq_true_eq]
    simpa using hs

end Happening
end StatusRelay

/-
# Retries of a webhook

Which attempts are made to deliver an event, what lies between them, and what they come to.

| of a delivery | statement |
| --- | --- |
| the pause before a retry doubles, up to the largest number of 64 bits | `retryDelay_eq` |
| a longer delay makes none shorter, if it fits into 64 bits | `longer_delay_no_sooner` |
| the attempts end at the first final reply, or at the last that is allowed | `tryFrom_eq` |
| the request is one and the same, and posts the event | `request?_posts` |
| all of it, and what the sink of a webhook sees of it | `process_retries` |

The number of the last attempt is `k` throughout. It is settled by two facts: no reply before the
`k`th is final, and the `k`th is final unless no retry is left.
-/

import Mathlib.Algebra.GroupWithZero.Nat
import StatusRelay.Webhook.Delivery

namespace StatusRelay
namespace Webhook

variable {α : Type} (w : Webhook)

/-! ### Pauses -/

/-- A power that does not fit into 64 bits makes the pause the longest there is, unless the pause
is nothing at all. -/
theorem retryDelay_eq (n : Nat) :
    w.retryDelay (n + 1) = min (w.retryBaseDelayMs * 2 ^ n) (2 ^ 64 - 1) := by
  have hword : maxWord = 2 ^ 64 - 1 := rfl
  unfold retryDelay powerOfTwo
  rw [Nat.add_sub_cancel, hword]
  split
  · rfl
  · rename_i hn
    have hpow : 2 ^ 64 ≤ 2 ^ n := Nat.pow_le_pow_right (by decide) (by omega)
    rcases Nat.eq_zero_or_pos w.retryBaseDelayMs with hzero | hpos
    · simp [hzero]
    · have hone : 2 ^ 64 - 1 ≤ w.retryBaseDelayMs * (2 ^ 64 - 1) := Nat.le_mul_of_pos_left _ hpos
      have hn' : 2 ^ n ≤ w.retryBaseDelayMs * 2 ^ n := Nat.le_mul_of_pos_left _ hpos
      rw [Nat.min_eq_right hone, Nat.min_eq_right (by omega)]

/-- An endpoint that begins with a longer pause makes no shorter pause later. -/
theorem retryDelay_mono {v w : Webhook} (h : v.retryBaseDelayMs ≤ w.retryBaseDelayMs) {m n : Nat}
    (hmn : m ≤ n) : v.retryDelay (m + 1) ≤ w.retryDelay (n + 1) := by
  rw [retryDelay_eq, retryDelay_eq]
  have hpow : 2 ^ m ≤ 2 ^ n := Nat.pow_le_pow_right (by decide) hmn
  have hmul : v.retryBaseDelayMs * 2 ^ m ≤ w.retryBaseDelayMs * 2 ^ n := Nat.mul_le_mul h hpow
  omega

/-! ### Delays -/

/-- Of the milliseconds of a delay the lower 64 bits are left. -/
theorem retryDelay_withRetryDelay (d : Duration) {m : Nat} (hm : 1 ≤ m) :
    (w.withRetryDelay d).retryDelay m =
      min (d.millis % 2 ^ 64 * 2 ^ (m - 1)) (2 ^ 64 - 1) := by
  obtain ⟨k, rfl⟩ : ∃ k, m = k + 1 := ⟨m - 1, by omega⟩
  exact retryDelay_eq _ k

theorem retryDelay_one (d : Duration) :
    (w.withRetryDelay d).retryDelay 1 = d.millis % 2 ^ 64 := by
  rw [w.retryDelay_withRetryDelay d (Nat.le_refl 1), Nat.sub_self, Nat.pow_zero, Nat.mul_one]
  omega

/-- Nothing shows of the bits that are lost if there are none, or if those that are left make the
longest pause at once. -/
theorem retryDelay_exact_iff (d : Duration) :
    (∀ m, 1 ≤ m → (w.withRetryDelay d).retryDelay m =
      min (d.millis * 2 ^ (m - 1)) (2 ^ 64 - 1)) ↔
      d.millis < 2 ^ 64 ∨ d.millis % 2 ^ 64 = 2 ^ 64 - 1 := by
  constructor
  · intro h
    have hfirst := h 1 (Nat.le_refl 1)
    rw [w.retryDelay_one d, Nat.sub_self, Nat.pow_zero, Nat.mul_one] at hfirst
    omega
  · rintro (hfits | hones) m hm
    · rw [w.retryDelay_withRetryDelay d hm, Nat.mod_eq_of_lt hfits]
    · rw [w.retryDelay_withRetryDelay d hm, hones]
      have hpow : 0 < 2 ^ (m - 1) := Nat.pow_pos (by decide)
      have hleft : 2 ^ 64 - 1 ≤ (2 ^ 64 - 1) * 2 ^ (m - 1) := Nat.le_mul_of_pos_right _ hpow
      have hall : d.millis ≤ d.millis * 2 ^ (m - 1) := Nat.le_mul_of_pos_right _ hpow
      have hmod : d.millis % 2 ^ 64 ≤ d.millis := Nat.mod_le _ _
      rw [Nat.min_eq_right hleft, Nat.min_eq_right (by omega)]

/-- Two delays keep their order at every retry exactly if what is left of them does. -/
theorem retryDelay_le_iff (v w : Webhook) (d e : Duration) :
    (∀ m n, 1 ≤ m → m ≤ n →
      (v.withRetryDelay d).retryDelay m ≤ (w.withRetryDelay e).retryDelay n) ↔
      d.millis % 2 ^ 64 ≤ e.millis % 2 ^ 64 := by
  constructor
  · intro h
    have hfirst := h 1 1 (Nat.le_refl 1) (Nat.le_refl 1)
    rwa [v.retryDelay_one d, w.retryDelay_one e] at hfirst
  · intro h m n hm hmn
    obtain ⟨k, rfl⟩ : ∃ k, m = k + 1 := ⟨m - 1, by omega⟩
    obtain ⟨l, rfl⟩ : ∃ l, n = l + 1 := ⟨n - 1, by omega⟩
    exact retryDelay_mono (v := v.withRetryDelay d) (w := w.withRetryDelay e) h (by omega)

/-- **A longer delay retries no sooner** if its whole milliseconds fit into 64 bits. Let one
endpoint be given a delay, and another one that is at least as long:

* if the longer one fits, no retry of the second comes after a shorter pause than the same or an
  earlier one of the first, and the pause before retry `m` is the milliseconds of the delay times
  `2 ^ (m - 1)`, or the largest number of 64 bits;
* the pauses are those of the lower 64 bits of the milliseconds;
* so they are those of the delay itself exactly if it fits, or if its lower 64 bits are all set;
* and they keep the order of the delays exactly if the lower 64 bits do. -/
theorem longer_delay_no_sooner (v w : Webhook) {d e : Duration} (hde : d.nanos ≤ e.nanos) :
    (e.millis < 2 ^ 64 → ∀ m n, 1 ≤ m → m ≤ n →
      (v.withRetryDelay d).retryDelay m ≤ (w.withRetryDelay e).retryDelay n ∧
        (v.withRetryDelay d).retryDelay m = min (d.millis * 2 ^ (m - 1)) (2 ^ 64 - 1)) ∧
      (∀ m, 1 ≤ m → (v.withRetryDelay d).retryDelay m =
        min (d.millis % 2 ^ 64 * 2 ^ (m - 1)) (2 ^ 64 - 1)) ∧
      ((∀ m, 1 ≤ m → (v.withRetryDelay d).retryDelay m =
        min (d.millis * 2 ^ (m - 1)) (2 ^ 64 - 1)) ↔
          d.millis < 2 ^ 64 ∨ d.millis % 2 ^ 64 = 2 ^ 64 - 1) ∧
      ((∀ m n, 1 ≤ m → m ≤ n →
        (v.withRetryDelay d).retryDelay m ≤ (w.withRetryDelay e).retryDelay n) ↔
          d.millis % 2 ^ 64 ≤ e.millis % 2 ^ 64) := by
  refine ⟨fun hfits m n hm hmn => ?_, fun m hm => v.retryDelay_withRetryDelay d hm,
    v.retryDelay_exact_iff d, retryDelay_le_iff v w d e⟩
  have hmillis : d.millis ≤ e.millis := Nat.div_le_div_right hde
  have hleft : d.millis % 2 ^ 64 ≤ e.millis % 2 ^ 64 := by
    rw [Nat.mod_eq_of_lt hfits]
    exact Nat.le_trans (Nat.mod_le _ _) hmillis
  exact ⟨(retryDelay_le_iff v w d e).2 hleft m n hm hmn,
    (v.retryDelay_exact_iff d).2 (Or.inl (by omega)) m hm⟩

/-- Just under two milliseconds, and the longest delay that fits. -/
theorem longer_delay_no_sooner_of_largest :
    let w : Webhook := { url := "http://a" }
    let d : Duration := ⟨1999999, by decide⟩
    let e : Duration := ⟨2 ^ 64 * 10 ^ 6 - 1, by decide⟩
    d.nanos ≤ e.nanos ∧ e.millis < 2 ^ 64 ∧
      (w.withRetryDelay d).retryDelay 3 ≤ (w.withRetryDelay e).retryDelay 5 ∧
      (w.withRetryDelay d).retryDelay 3 = min (d.millis * 2 ^ (3 - 1)) (2 ^ 64 - 1) := by
  intro w d e
  have horder : d.nanos ≤ e.nanos := by decide
  have hfits : e.millis < 2 ^ 64 := by decide
  obtain ⟨hle, heq⟩ := (longer_delay_no_sooner w w horder).1 hfits 3 5 (by decide) (by decide)
  exact ⟨horder, hfits, hle, heq⟩

/-- **A delay may be lost.** A pause of `2 ^ 64` milliseconds is none at all, and shorter than that
of one millisecond. -/
theorem long_delay_lost :
    let w : Webhook := { url := "http://a" }
    let short : Duration := ⟨10 ^ 6, by decide⟩
    let long : Duration := ⟨2 ^ 64 * 10 ^ 6, by decide⟩
    short.nanos ≤ long.nanos ∧
      ¬ (w.withRetryDelay short).retryDelay 1 ≤ (w.withRetryDelay long).retryDelay 1 ∧
      (w.withRetryDelay long).retryDelay 1 = 0 ∧
      min (long.millis * 2 ^ (1 - 1)) (2 ^ 64 - 1) = 2 ^ 64 - 1 := by
  decide

/-! ### Replies -/

/-- A reply is no failure exactly if its status is a success. -/
theorem failure?_eq_none_iff {reply : Http.Reply} :
    failure? reply = none ↔
      ∃ status tag body, reply = .answered status tag body ∧ 200 ≤ status ∧ status < 300 := by
  cases reply with
  | lost => simp [failure?]
  | answered status tag body =>
    simp only [failure?]
    split
    · rename_i hsuccess
      exact ⟨fun _ => ⟨status, tag, body, rfl, hsuccess⟩, fun _ => rfl⟩
    · rename_i hother
      refine ⟨nofun, ?_⟩
      rintro ⟨status, tag, body, ⟨⟩, hsuccess⟩
      exact absurd hsuccess hother

/-- A reply that is no failure is final. -/
theorem isFinal_of_failure?_eq_none {reply : Http.Reply} (h : failure? reply = none) :
    isFinal reply := by
  obtain ⟨status, tag, body, rfl, hlow, hhigh⟩ := failure?_eq_none_iff.1 h
  simp [isFinal, hlow, hhigh]

/-- The failure of a reply tells of that reply: the exchange was lost, or it was answered. -/
theorem failure?_ne_other (reply : Http.Reply) (detail : String) :
    failure? reply ≠ some (.other detail) := by
  cases reply with
  | lost => simp [failure?]
  | answered status tag body =>
    simp only [failure?]
    split <;> simp

/-! ### Attempts -/

variable (exchange : Nat → α × Http.Reply)

/-- An attempt after which the loop ends. -/
theorem tryFrom_of_isFinal {n left : Nat} {failed : Option ConsumerFailure}
    (h : isFinal (exchange n).2) :
    w.tryFrom exchange n failed (left + 1) =
      ⟨w.lead n ++ [.send (exchange n).1], failure? (exchange n).2⟩ := by
  unfold tryFrom
  cases hf : failure? (exchange n).2 <;> simp [hf, h]

/-- An attempt after which the loop goes on, if it may. -/
theorem tryFrom_of_not_isFinal {n left : Nat} {failed : Option ConsumerFailure}
    (h : ¬ isFinal (exchange n).2) :
    w.tryFrom exchange n failed (left + 1) =
      let rest := w.tryFrom exchange (n + 1) (failure? (exchange n).2) left
      ⟨w.lead n ++ .send (exchange n).1 :: rest.steps, rest.failure⟩ := by
  have hf : failure? (exchange n).2 ≠ none := fun hf => h (isFinal_of_failure?_eq_none hf)
  obtain ⟨failure, hf⟩ := Option.ne_none_iff_exists'.1 hf
  rw [tryFrom]
  simp [hf, h]

/-- What the loop does from attempt `n` on: so many attempts more, each with the pause that
precedes it. The number of attempts is settled by the replies. The induction is on the attempts
left, and the failure of an earlier attempt never shows, since the loop starts with one left. -/
theorem tryFrom_eq {n k left : Nat} (hk : k ≤ left)
    (hbefore : ∀ i < k, ¬ isFinal (exchange (n + i)).2)
    (hlast : k < left → isFinal (exchange (n + k)).2) (failed : Option ConsumerFailure) :
    w.tryFrom exchange n failed (left + 1) =
      ⟨(List.range (k + 1)).flatMap fun i => w.lead (n + i) ++ [.send (exchange (n + i)).1],
        failure? (exchange (n + k)).2⟩ := by
  induction left generalizing n k failed with
  | zero =>
    obtain rfl : k = 0 := by omega
    by_cases hfinal : isFinal (exchange n).2
    · simp [tryFrom_of_isFinal w exchange hfinal]
    · have hf : failure? (exchange n).2 ≠ none :=
        fun hf => hfinal (isFinal_of_failure?_eq_none hf)
      obtain ⟨failure, hf⟩ := Option.ne_none_iff_exists'.1 hf
      rw [tryFrom_of_not_isFinal w exchange hfinal]
      simp [tryFrom, hf]
  | succ left ih =>
    cases k with
    | zero =>
      have hfinal : isFinal (exchange n).2 := hlast (by omega)
      simp [tryFrom_of_isFinal w exchange hfinal]
    | succ k =>
      have hfirst : ¬ isFinal (exchange n).2 := hbefore 0 (by omega)
      have hshift (i : Nat) : n + 1 + i = n + (i + 1) := by omega
      have hrest := ih (n := n + 1) (k := k) (by omega)
        (fun i hi => by rw [hshift]; exact hbefore (i + 1) (by omega))
        (fun hi => by rw [hshift]; exact hlast (by omega)) (failure? (exchange n).2)
      rw [tryFrom_of_not_isFinal w exchange hfirst, hrest,
        List.range_succ_eq_map (n := k + 1), List.flatMap_cons, List.flatMap_map]
      simp only [hshift, Nat.add_zero, Nat.succ_eq_add_one, List.append_assoc, List.cons_append,
        List.nil_append]

/-- The number of the last attempt: the first with a final reply, or the last that is allowed. -/
theorem exists_last (reply : Nat → Http.Reply) (limit : Nat) :
    ∃ k ≤ limit, (∀ i < k, ¬ isFinal (reply i)) ∧ (k < limit → isFinal (reply k)) := by
  induction limit with
  | zero => exact ⟨0, Nat.le_refl _, by simp, by simp⟩
  | succ limit ih =>
    obtain ⟨k, hk, hbefore, hlast⟩ := ih
    by_cases hfinal : isFinal (reply k)
    · exact ⟨k, by omega, hbefore, fun _ => hfinal⟩
    · have hge : ¬ k < limit := fun hlt => hfinal (hlast hlt)
      obtain rfl : k = limit := by omega
      refine ⟨k + 1, Nat.le_refl _, fun i hi => ?_, by simp⟩
      obtain rfl | hi := Nat.eq_or_lt_of_le (Nat.le_of_lt_succ hi)
      · exact hfinal
      · exact hbefore i hi

/-- All attempts but the first follow a pause. -/
theorem flatMap_lead (sent : α) (k : Nat) :
    ((List.range (k + 1)).flatMap fun i => w.lead i ++ [.send sent]) =
      .send sent :: (List.range k).flatMap fun i =>
        [.pause (min (w.retryBaseDelayMs * 2 ^ i) (2 ^ 64 - 1)), .send sent] := by
  rw [List.range_succ_eq_map]
  simp [lead, List.flatMap_map, retryDelay_eq]

/-! ### Requests -/

/-- The request posts the event to the path of the address. -/
theorem request?_posts {url : Url} {e : Event} {r : Http.Request} (h : w.request? url e = some r) :
    r.method = "POST" ∧ r.target = url.target ∧ r.body = some e.toJson := by
  unfold request? at h
  split at h
  all_goals
    simp only [Option.bind_eq_bind, Option.pure_def, Option.bind_some, Option.bind_eq_some_iff,
      Option.some.injEq] at h
  · obtain ⟨-, -, rfl⟩ := h
    exact ⟨rfl, rfl, rfl⟩
  · obtain ⟨-, -, -, -, rfl⟩ := h
    exact ⟨rfl, rfl, rfl⟩

/-! ### Totals -/

/-- The attempts among retries. -/
@[simp] theorem attemptsIn_retries (pause : Nat → Nat) (sent : α) (l : List Nat) :
    attemptsIn (l.flatMap fun i => [.pause (pause i), .send sent]) = l.length := by
  induction l with
  | nil => rfl
  | cons i l ih => simp [attemptsIn, ih]

/-- The pauses among retries. -/
@[simp] theorem waitedIn_retries (pause : Nat → Nat) (sent : α) (l : List Nat) :
    waitedIn (l.flatMap fun i => [.pause (pause i), .send sent]) = (l.map pause).sum := by
  induction l with
  | nil => rfl
  | cons i l ih => simp [waitedIn, ih]

/-! ### Deliveries -/

/-- The course of a delivery in which every attempt sends the same. -/
theorem tryAll_eq (sent : α) {reply : Nat → Http.Reply} {k : Nat} (hk : k ≤ w.maxRetries)
    (hbefore : ∀ i < k, ¬ isFinal (reply i)) (hlast : k < w.maxRetries → isFinal (reply k)) :
    w.tryAll (fun n => (sent, reply n)) =
      ⟨.send sent :: (List.range k).flatMap fun i =>
        [.pause (min (w.retryBaseDelayMs * 2 ^ i) (2 ^ 64 - 1)), .send sent],
        failure? (reply k)⟩ := by
  have hcourse := w.tryFrom_eq (fun n => (sent, reply n)) (n := 0) hk
    (by simpa using hbefore) (by simpa using hlast) none
  unfold tryAll
  simpa only [Nat.zero_add, flatMap_lead] using hcourse

/-- **The retries of a webhook.** For every endpoint, every event and every reply to each attempt
there is a last attempt `k`, counted from zero:

* it is the first that is answered with a success or with the fault of the request, or the last
  that is allowed if none is;
* the attempts are those from `0` to `k`, all with the same request, which posts the event;
* the retry `i + 1` follows a pause of `base * 2 ^ i` milliseconds, or of the largest number of 64
  bits, and nothing else is waited for;
* the event is delivered exactly if attempt `k` is answered with a success, and otherwise fails as
  this attempt does, never for an unknown reason.

The sink of the webhook counts as many attempts, takes as long and fails alike. -/
theorem process_retries (url : Url) (e : Event) (reply : Nat → Http.Reply) :
    ∃ k ≤ w.maxRetries,
      (∀ i < k, ¬ isFinal (w.replyTo url e reply i)) ∧
      (k < w.maxRetries → isFinal (w.replyTo url e reply k)) ∧
      (w.process url e reply).steps = .send (w.request? url e) :: (List.range k).flatMap (fun i =>
        [.pause (min (w.retryBaseDelayMs * 2 ^ i) (2 ^ 64 - 1)), .send (w.request? url e)]) ∧
      (∀ r, w.request? url e = some r →
        r.method = "POST" ∧ r.target = url.target ∧ r.body = some e.toJson) ∧
      ((w.process url e reply).failure = none ↔ ∃ status tag body,
        w.replyTo url e reply k = .answered status tag body ∧ 200 ≤ status ∧ status < 300) ∧
      (w.process url e reply).failure = failure? (w.replyTo url e reply k) ∧
      (∀ detail, (w.process url e reply).failure ≠ some (.other detail)) ∧
      w.deliver (w.replyTo url e reply) = ⟨k + 1,
        ((List.range k).map fun i => min (w.retryBaseDelayMs * 2 ^ i) (2 ^ 64 - 1)).sum,
        (w.process url e reply).failure⟩ := by
  obtain ⟨k, hk, hbefore, hlast⟩ := exists_last (w.replyTo url e reply) w.maxRetries
  have hcourse : w.process url e reply = _ := w.tryAll_eq (w.request? url e) hk hbefore hlast
  have hdelivery : w.deliver (w.replyTo url e reply) = _ :=
    congrArg Course.delivery (w.tryAll_eq () hk hbefore hlast)
  rw [hcourse, hdelivery]
  refine ⟨k, hk, hbefore, hlast, rfl, fun r => w.request?_posts, failure?_eq_none_iff, rfl,
    failure?_ne_other _, ?_⟩
  simp [Course.delivery, attemptsIn, waitedIn]

/-- A lost exchange, an answer of the server's fault and a success: two retries, after one and
two seconds. -/
example :
    let w : Webhook := { url := "http://a/" }
    let reply : Nat → Http.Reply := fun n =>
      if n = 0 then .lost else if n = 1 then .answered 503 none none else .answered 200 none none
    w.tryAll (fun n => (n, reply n)) =
      ⟨[.send 0, .pause 1000, .send 1, .pause 2000, .send 2], none⟩ := by
  decide

end Webhook
end StatusRelay

import Mathlib
import Signpost.Server
import Signpost.Shutdown

/-!
# Who gets the shutdown signal

What a subscriber is told follows from what has been done since its subscription, and from what it
has been told so far.

* `since?` — what was done since a subscription; `isLive` — whether the subscriber is still there.
* `receipts` — what a subscriber was told, in order.  Each receipt stands for a number of signals:
  `Receipt.signals`.
* `unread` — how many signals were triggered since the subscription and are not yet accounted for by
  a receipt.
* `heed` — what a receipt is to a server that waits for the signal.

**Bookkeeping.**  `Tracks` ties the number that the state holds for a subscriber to these lists:
its distance from the number of signals sent is what is unread.  It holds after every sequence of
actions (`tracks_run`), so what a subscriber is told depends on the unread signals alone
(`receive_run`).

**`Shutdown.reaches_subscribers`** draws the conclusions: nobody who listens misses a signal, and
nobody is disturbed by the others.
-/

namespace Signpost.Shutdown

open scoped List

/-! ## What the actions say -/

/-- What was done after the subscription with the given index; nothing if there was none. -/
def since? : List Action → Nat → Option (List Action)
  | [], _ => none
  | .subscribe :: rest, 0 => some rest
  | .subscribe :: rest, i + 1 => since? rest i
  | _ :: rest, i => since? rest i

/-- Whether a subscriber has subscribed and not left since. -/
def isLive (actions : List Action) (i : Nat) : Bool :=
  (since? actions i).any fun rest => !rest.contains (.leave i)

/-- How often the signal was triggered since a subscription. -/
def triggered (actions : List Action) (i : Nat) : Nat :=
  ((since? actions i).getD []).count .trigger

/-- What a subscriber is told in a run, in order. -/
def receipts (s : Shutdown) (i : Nat) (actions : List Action) : List Receipt :=
  (actions.zip (s.run actions).1).filterMap fun
    | (.receive j, (.received receipt, _)) => if j = i then some receipt else none
    | _ => none

/-- The number of signals that a receipt stands for. -/
def Receipt.signals : Receipt → Nat
  | signal => 1
  | lagged missed => missed
  | empty => 0
  | noSubscriber => 0

/-- The number of signals that a subscriber has been told of. -/
def told (actions : List Action) (i : Nat) : Nat :=
  ((new.receipts i actions).map Receipt.signals).sum

/-- The number of signals since its subscription that a subscriber has not been told of. -/
def unread (actions : List Action) (i : Nat) : Nat :=
  triggered actions i - told actions i

/-- A server that waits for the signal ends when it is told of one, or that it missed some.

Two things are left out.  A receiver that waits is woken by the signal; here it looks, and finds the
signal or does not.  And a server that is told of the signal first finishes the requests that are under
way, and takes new settings while it does; here its end is the one step `Server.Action.stop`. -/
def heed (server : Server) (receipt : Receipt) : Server :=
  if 0 < receipt.signals then (server.step .stop).2 else server

/-- Whether an action could concern a subscriber: it is not a look or the leaving of another. -/
def Action.concerns (i : Nat) : Action → Bool
  | .subscribe => true
  | .trigger => true
  | .leave j => j = i
  | .receive j => j = i

lemma since?_cons_of_ne {a : Action} (ha : a ≠ .subscribe) (rest : List Action) (i : Nat) :
    since? (a :: rest) i = since? rest i := by
  cases a with
  | subscribe => exact absurd rfl ha
  | trigger => rfl
  | leave j => rfl
  | receive j => rfl

lemma isSome_since?_iff {actions : List Action} {i : Nat} :
    (since? actions i).isSome ↔ i < actions.count .subscribe := by
  induction actions generalizing i with
  | nil => simp [since?]
  | cons a rest ih =>
      by_cases ha : a = .subscribe
      · subst ha
        cases i <;> simp [since?, ih]
      · simp [since?_cons_of_ne ha, ih, List.count_cons_of_ne ha]

lemma since?_eq_none {actions : List Action} {i : Nat} (h : actions.count .subscribe ≤ i) :
    since? actions i = none := by
  rw [← Option.not_isSome_iff_eq_none, isSome_since?_iff]
  exact Nat.not_lt_of_le h

/-- A subscription is the next one if there have been as many before. -/
lemma since?_concat_subscribe (actions : List Action) (i : Nat) :
    since? (actions ++ [.subscribe]) i =
      if i = actions.count .subscribe then some []
      else (since? actions i).map (· ++ [.subscribe]) := by
  induction actions generalizing i with
  | nil => cases i <;> simp [since?]
  | cons a rest ih =>
      by_cases ha : a = .subscribe
      · subst ha
        cases i <;> simp [since?, ih]
      · simp [since?_cons_of_ne ha, ih, List.count_cons_of_ne ha]

/-- Any other action comes after the subscriptions that there have been. -/
lemma since?_concat {a : Action} (ha : a ≠ .subscribe) (actions : List Action) (i : Nat) :
    since? (actions ++ [a]) i = (since? actions i).map (· ++ [a]) := by
  induction actions generalizing i with
  | nil => rw [List.nil_append, since?_cons_of_ne ha, since?, Option.map_none]
  | cons b rest ih =>
      by_cases hb : b = .subscribe
      · subst hb
        cases i <;> simp [since?, ih]
      · simp [since?_cons_of_ne hb, ih]

/-- Leaving out what does not concern a subscriber leaves out nothing else. -/
lemma since?_filter (actions : List Action) (i j : Nat) :
    since? (actions.filter (Action.concerns j)) i =
      (since? actions i).map (List.filter (Action.concerns j)) := by
  induction actions generalizing i with
  | nil => rfl
  | cons a rest ih =>
      by_cases ha : a = .subscribe
      · subst ha
        cases i <;> simp [List.filter_cons, Action.concerns, since?, ih]
      · rw [since?_cons_of_ne ha, List.filter_cons, ← ih]
        split
        · exact since?_cons_of_ne ha _ i
        · rfl

lemma isLive_concat_subscribe (actions : List Action) (i : Nat) :
    isLive (actions ++ [.subscribe]) i =
      if i = actions.count .subscribe then true else isLive actions i := by
  rw [isLive, since?_concat_subscribe]
  split
  · rfl
  · rw [isLive]
    cases since? actions i <;> simp

lemma isLive_concat {a : Action} (ha : a ≠ .subscribe) (actions : List Action) (i : Nat) :
    isLive (actions ++ [a]) i = (isLive actions i && a ≠ .leave i) := by
  rw [isLive, since?_concat ha, isLive]
  cases since? actions i with
  | none => rfl
  | some rest =>
      by_cases hleave : a = .leave i
      · simp [hleave]
      · simp [hleave, Ne.symm hleave]

lemma triggered_concat_subscribe (actions : List Action) (i : Nat) :
    triggered (actions ++ [.subscribe]) i = triggered actions i := by
  rw [triggered, since?_concat_subscribe, triggered]
  split
  · next hi =>
    rw [since?_eq_none (Nat.le_of_eq hi.symm)]
    rfl
  · cases since? actions i <;> simp

lemma triggered_concat_trigger {actions : List Action} {i : Nat} (h : isLive actions i = true) :
    triggered (actions ++ [.trigger]) i = triggered actions i + 1 := by
  rw [triggered, since?_concat (by decide), triggered]
  cases hsince : since? actions i with
  | none => simp [isLive, hsince] at h
  | some rest => simp

lemma triggered_concat {a : Action} (ha : a ≠ .subscribe) (ha' : a ≠ .trigger)
    (actions : List Action) (i : Nat) : triggered (actions ++ [a]) i = triggered actions i := by
  rw [triggered, since?_concat ha, triggered]
  cases since? actions i with
  | none => rfl
  | some rest => simp [List.count_cons_of_ne ha']

/-! ## What an action does -/

lemma run_concat (s : Shutdown) (actions : List Action) (a : Action) :
    s.run (actions ++ [a]) =
      ((s.run actions).1 ++ [(((s.run actions).2.step a).1, ((s.run actions).2.step a).2.listening)],
        ((s.run actions).2.step a).2) := by
  induction actions generalizing s with
  | nil => rfl
  | cons b rest ih => simp [run, ih]

lemma length_run (s : Shutdown) (actions : List Action) :
    (s.run actions).1.length = actions.length := by
  induction actions generalizing s with
  | nil => rfl
  | cons a rest ih => simp [run, ih]

/-- What a subscriber is told at once, if it is told anything. -/
def heard (s : Shutdown) (i : Nat) (a : Action) : List Receipt :=
  if a = .receive i then [(s.receive i).1] else []

lemma receipts_concat (s : Shutdown) (i : Nat) (actions : List Action) (a : Action) :
    s.receipts i (actions ++ [a]) = s.receipts i actions ++ (s.run actions).2.heard i a := by
  rw [receipts, run_concat, List.zip_append (length_run s actions).symm, List.filterMap_append,
    receipts, heard]
  congr 1
  cases a with
  | subscribe => rfl
  | trigger => rfl
  | leave j => rfl
  | receive j => by_cases hj : j = i <;> simp [step, hj]

lemma told_concat (actions : List Action) (a : Action) (i : Nat) :
    told (actions ++ [a]) i =
      told actions i + (((new.run actions).2.heard i a).map Receipt.signals).sum := by
  rw [told, receipts_concat, List.map_append, List.sum_append, told]

lemma told_concat_of_ne {a : Action} {i : Nat} (ha : a ≠ .receive i) (actions : List Action) :
    told (actions ++ [a]) i = told actions i := by
  rw [told_concat, heard, if_neg ha]
  rfl

lemma told_concat_receive (actions : List Action) (i : Nat) :
    told (actions ++ [.receive i]) i =
      told actions i + ((new.run actions).2.receive i).1.signals := by
  rw [told_concat, heard, if_pos rfl]
  simp

lemma awaited?_subscribe (s : Shutdown) (i : Nat) :
    s.subscribe.2.awaited? i = if i = s.subscribers.length then some s.sent else s.awaited? i := by
  simp only [awaited?, subscribe]
  rcases Nat.lt_trichotomy i s.subscribers.length with hi | rfl | hi
  · rw [if_neg (Nat.ne_of_lt hi), List.getElem?_append_left hi]
  · simp
  · rw [if_neg (Nat.ne_of_gt hi), List.getElem?_eq_none (Nat.le_of_lt hi),
      List.getElem?_eq_none (by rw [List.length_append, List.length_singleton]; exact hi)]

lemma awaited?_set (s : Shutdown) (i j : Nat) (x : Option Nat) (hx : x = none ∨ (s.awaited? j).isSome) :
    awaited? { s with subscribers := s.subscribers.set j x } i =
      if i = j then x else s.awaited? i := by
  simp only [awaited?, List.getElem?_set]
  by_cases hij : j = i
  · subst hij
    rw [if_pos rfl, if_pos rfl]
    split
    · rfl
    · next hlt =>
      rcases hx with rfl | hsome
      · rfl
      · simp [awaited?, List.getElem?_eq_none (Nat.le_of_not_lt hlt)] at hsome
  · rw [if_neg hij, if_neg (Ne.symm hij)]

lemma listening_ne_zero {s : Shutdown} {i next : Nat} (h : s.awaited? i = some next) :
    s.listening ≠ 0 := by
  rw [awaited?, Option.join_eq_some_iff] at h
  rw [listening, Nat.ne_zero_iff_zero_lt, List.countP_pos_iff]
  exact ⟨some next, List.mem_of_getElem? h, rfl⟩

lemma listening_eq (s : Shutdown) :
    s.listening = (List.range s.subscribers.length).countP fun i => (s.awaited? i).isSome := by
  have hlist : s.subscribers = (List.range s.subscribers.length).map s.awaited? := by
    refine List.ext_getElem (by simp) fun i hi _ => ?_
    simp [awaited?, hi]
  rw [listening]
  nth_rewrite 1 [hlist]
  rw [List.countP_map]
  rfl

lemma sent_receive (s : Shutdown) (i : Nat) : (s.receive i).2.sent = s.sent := by
  unfold receive
  split
  · rfl
  · dsimp only
    split_ifs <;> rfl

lemma length_receive (s : Shutdown) (i : Nat) :
    (s.receive i).2.subscribers.length = s.subscribers.length := by
  unfold receive
  split
  · rfl
  · dsimp only
    split_ifs
    · rfl
    · exact List.length_set
    · exact List.length_set

lemma awaited?_receive_of_ne {i j : Nat} (h : i ≠ j) (s : Shutdown) :
    (s.receive j).2.awaited? i = s.awaited? i := by
  cases hj : s.awaited? j with
  | none => simp only [receive, hj]
  | some next =>
      have hset : ∀ n, awaited? { s with subscribers := s.subscribers.set j (some n) } i =
          s.awaited? i := fun n =>
        (awaited?_set s i j (some n) (Or.inr (by rw [hj]; rfl))).trans (if_neg h)
      simp only [receive, hj]
      split_ifs
      · rfl
      · exact hset s.sent
      · exact hset (s.sent - 1)

lemma receive_of_awaited?_eq_none {s : Shutdown} {i : Nat} (h : s.awaited? i = none) :
    s.receive i = (.noSubscriber, s) := by
  simp only [receive, h]

/-- What a subscriber is told if so many signals are unread. -/
def Receipt.ofUnread : Nat → Receipt
  | 0 => .empty
  | 1 => .signal
  | k + 2 => .lagged (k + 1)

lemma Receipt.ofUnread_ne_empty_iff {k : Nat} : ofUnread k ≠ .empty ↔ 0 < k := by
  match k with
  | 0 => exact iff_of_false (fun h => h rfl) (Nat.lt_irrefl 0)
  | 1 => exact iff_of_true Receipt.noConfusion Nat.one_pos
  | k + 2 => exact iff_of_true Receipt.noConfusion (Nat.succ_pos _)

lemma Receipt.signals_ofUnread_le (k : Nat) : (ofUnread k).signals ≤ k := by
  match k with
  | 0 => exact Nat.le_refl 0
  | 1 => exact Nat.le_refl 1
  | k + 2 => exact Nat.le_succ (k + 1)

lemma Receipt.signals_ofUnread_pos_iff {k : Nat} : 0 < (ofUnread k).signals ↔ 0 < k := by
  match k with
  | 0 => exact Iff.rfl
  | 1 => exact Iff.rfl
  | k + 2 => exact iff_of_true (Nat.succ_pos k) (Nat.succ_pos _)

/-- **A subscriber is told of all unread signals but the last, and then of the last**; it goes on to
wait for the signal after those that it has been told of. -/
lemma receive_of_awaited? {s : Shutdown} {i next k : Nat} (h : s.awaited? i = some next)
    (hk : next + k = s.sent) :
    (s.receive i).1 = .ofUnread k ∧
      (s.receive i).2.awaited? i = some (next + (Receipt.ofUnread k).signals) := by
  have hset : ∀ n, awaited? { s with subscribers := s.subscribers.set i (some n) } i = some n :=
    fun n => (awaited?_set s i i (some n) (Or.inr (by rw [h]; rfl))).trans (if_pos rfl)
  simp only [receive, h]
  match k with
  | 0 =>
      rw [if_pos (by omega)]
      exact ⟨rfl, h⟩
  | 1 =>
      rw [if_neg (by omega), if_pos (by omega), ← hk]
      exact ⟨rfl, hset (next + 1)⟩
  | k + 2 =>
      have hmissed : s.sent - 1 - next = k + 1 := by omega
      have hnext : s.sent - 1 = next + (k + 1) := by omega
      rw [if_neg (by omega), if_neg (by omega), hmissed, hnext]
      exact ⟨rfl, hset (next + (k + 1))⟩

/-! ## Bookkeeping -/

/-- The state holds what the actions say. -/
structure Tracks (actions : List Action) (s : Shutdown) : Prop where
  /-- There is a place for every subscription. -/
  length_eq : s.subscribers.length = actions.count .subscribe
  /-- The place is taken as long as the subscriber is there. -/
  isSome_awaited? : ∀ i, (s.awaited? i).isSome = isLive actions i
  /-- The signals since a subscription are those that the subscriber has been told of and those
  between the number that it waits for and the last one. -/
  accounts : ∀ i next, s.awaited? i = some next →
    ∃ k, next + k = s.sent ∧ told actions i + k = triggered actions i
  /-- Nobody is told of a signal before the subscription. -/
  told_eq_zero : ∀ i, actions.count .subscribe ≤ i → told actions i = 0

lemma tracks_new : Tracks [] new where
  length_eq := rfl
  isSome_awaited? _ := rfl
  accounts i next h := by simp [awaited?, new] at h
  told_eq_zero _ _ := rfl

/-- The state after the actions. -/
abbrev after (actions : List Action) : Shutdown := (new.run actions).2

lemma Tracks.subscribe {actions : List Action} (h : Tracks actions (after actions)) :
    Tracks (actions ++ [.subscribe]) (after actions).subscribe.2 where
  length_eq := by simp [Shutdown.subscribe, h.length_eq]
  isSome_awaited? i := by
    rw [awaited?_subscribe, isLive_concat_subscribe, h.length_eq]
    split
    · rfl
    · exact h.isSome_awaited? i
  accounts i next hnext := by
    rw [awaited?_subscribe, h.length_eq] at hnext
    rw [told_concat_of_ne (by simp), triggered_concat_subscribe]
    split at hnext
    · next hi =>
      have hnew := Nat.le_of_eq hi.symm
      cases hnext
      refine ⟨0, rfl, ?_⟩
      rw [h.told_eq_zero i hnew, triggered, since?_eq_none hnew]
      rfl
    · exact h.accounts i next hnext
  told_eq_zero i hi := by
    rw [told_concat_of_ne (by simp)]
    refine h.told_eq_zero i (Nat.le_trans ?_ hi)
    simp

lemma Tracks.trigger {actions : List Action} (h : Tracks actions (after actions)) :
    Tracks (actions ++ [.trigger]) (after actions).trigger := by
  have hsubscribers : (after actions).trigger.subscribers = (after actions).subscribers := by
    unfold Shutdown.trigger
    split <;> rfl
  have hawaited : ∀ i, (after actions).trigger.awaited? i = (after actions).awaited? i := by
    intro i
    rw [awaited?, hsubscribers, awaited?]
  refine ⟨?_, ?_, ?_, ?_⟩
  · rw [hsubscribers, h.length_eq]
    simp
  · intro i
    rw [hawaited, h.isSome_awaited?, isLive_concat (by decide)]
    simp
  · intro i next hnext
    rw [hawaited] at hnext
    have hlive : isLive actions i = true := by
      rw [← h.isSome_awaited?, hnext]
      rfl
    have hsent : (after actions).trigger.sent = (after actions).sent + 1 := by
      rw [Shutdown.trigger, if_neg (listening_ne_zero hnext)]
    obtain ⟨k, hk, htold⟩ := h.accounts i next hnext
    refine ⟨k + 1, ?_, ?_⟩
    · rw [hsent]
      omega
    · rw [told_concat_of_ne (by simp), triggered_concat_trigger hlive]
      omega
  · intro i hi
    rw [told_concat_of_ne (by simp)]
    exact h.told_eq_zero i (by simpa using hi)

lemma Tracks.leave {actions : List Action} (h : Tracks actions (after actions)) (j : Nat) :
    Tracks (actions ++ [.leave j]) ((after actions).leave j).2 := by
  have hawaited : ∀ i, ((after actions).leave j).2.awaited? i =
      if i = j then none else (after actions).awaited? i := fun i =>
    awaited?_set (after actions) i j none (Or.inl rfl)
  refine ⟨?_, ?_, ?_, ?_⟩
  · simp [Shutdown.leave, h.length_eq]
  · intro i
    rw [hawaited, isLive_concat (by simp), ← h.isSome_awaited?]
    by_cases hi : i = j
    · simp [hi]
    · simp [hi, Ne.symm hi]
  · intro i next hnext
    rw [hawaited] at hnext
    split at hnext
    · cases hnext
    · rw [told_concat_of_ne (by simp), triggered_concat (by simp) (by simp)]
      exact h.accounts i next hnext
  · intro i hi
    rw [told_concat_of_ne (by simp)]
    exact h.told_eq_zero i (by simpa using hi)

lemma Tracks.receive {actions : List Action} (h : Tracks actions (after actions)) (j : Nat) :
    Tracks (actions ++ [.receive j]) ((after actions).receive j).2 := by
  have hlive : ∀ i, isLive (actions ++ [.receive j]) i = isLive actions i := by
    intro i
    rw [isLive_concat (by simp)]
    simp
  have htriggered : ∀ i, triggered (actions ++ [.receive j]) i = triggered actions i := fun i =>
    triggered_concat (by simp) (by simp) actions i
  refine ⟨?_, ?_, ?_, ?_⟩
  · simp [length_receive, h.length_eq]
  · intro i
    rw [hlive, ← h.isSome_awaited?]
    by_cases hij : i = j
    · subst hij
      cases hi : (after actions).awaited? i with
      | none => rw [receive_of_awaited?_eq_none hi, hi]
      | some next =>
          obtain ⟨k, hk, -⟩ := h.accounts i next hi
          rw [(receive_of_awaited? hi hk).2]
          rfl
    · rw [awaited?_receive_of_ne hij]
  · intro i next hnext
    rw [sent_receive, htriggered]
    by_cases hij : i = j
    · subst hij
      cases hi : (after actions).awaited? i with
      | none =>
          rw [receive_of_awaited?_eq_none hi, hi] at hnext
          cases hnext
      | some before =>
          obtain ⟨k, hk, hsum⟩ := h.accounts i before hi
          obtain ⟨hreceipt, hmoved⟩ := receive_of_awaited? hi hk
          have hle := Receipt.signals_ofUnread_le k
          rw [hmoved, Option.some.injEq] at hnext
          refine ⟨k - (Receipt.ofUnread k).signals, by omega, ?_⟩
          rw [told_concat_receive, hreceipt]
          omega
    · rw [awaited?_receive_of_ne hij] at hnext
      rw [told_concat_of_ne (by simpa using Ne.symm hij)]
      exact h.accounts i next hnext
  · intro i hi
    have hi' : actions.count .subscribe ≤ i := by simpa using hi
    by_cases hij : i = j
    · subst hij
      have hnone : (after actions).awaited? i = none := by
        rw [awaited?, List.getElem?_eq_none (by rw [h.length_eq]; exact hi')]
        rfl
      rw [told_concat_receive, receive_of_awaited?_eq_none hnone]
      exact h.told_eq_zero i hi'
    · rw [told_concat_of_ne (by simpa using Ne.symm hij)]
      exact h.told_eq_zero i hi'

/-- **The books are kept** through every sequence of actions. -/
theorem tracks_run (actions : List Action) : Tracks actions (after actions) := by
  induction actions using List.reverseRecOn with
  | nil => exact tracks_new
  | append_singleton actions a ih =>
      have hstep : after (actions ++ [a]) = ((after actions).step a).2 := by
        rw [after, run_concat]
      rw [hstep]
      cases a with
      | subscribe => exact ih.subscribe
      | trigger => exact ih.trigger
      | leave j => exact ih.leave j
      | receive j => exact ih.receive j

/-- A subscriber that is there waits for the signal after those it has been told of. -/
lemma exists_awaited?_of_isLive {actions : List Action} {i : Nat} (h : isLive actions i = true) :
    ∃ next, (after actions).awaited? i = some next ∧
      next + unread actions i = (after actions).sent ∧
      told actions i + unread actions i = triggered actions i := by
  rw [← (tracks_run actions).isSome_awaited?, Option.isSome_iff_exists] at h
  obtain ⟨next, hnext⟩ := h
  obtain ⟨k, hk, hsum⟩ := (tracks_run actions).accounts i next hnext
  have hunread : unread actions i = k := by
    rw [unread]
    omega
  rw [hunread]
  exact ⟨next, hnext, hk, hsum⟩

/-- **What is unread decides** what a subscriber is told. -/
theorem receive_run (actions : List Action) (i : Nat) :
    ((after actions).receive i).1 =
      if isLive actions i then .ofUnread (unread actions i) else .noSubscriber := by
  split
  · next hlive =>
    obtain ⟨next, hnext, hk, -⟩ := exists_awaited?_of_isLive hlive
    exact (receive_of_awaited? hnext hk).1
  · next hlive =>
    rw [← (tracks_run actions).isSome_awaited?, Bool.not_eq_true, Option.isSome_eq_false_iff,
      Option.isNone_iff_eq_none] at hlive
    rw [receive_of_awaited?_eq_none hlive]

/-! ## Conclusions -/

/-- The receipts of a subscriber are the same if the looks and the leaving of the others are left
out. -/
theorem receipts_filter (actions : List Action) (i : Nat) :
    new.receipts i (actions.filter (Action.concerns i)) = new.receipts i actions := by
  induction actions using List.reverseRecOn with
  | nil => rfl
  | append_singleton actions a ih =>
      rw [List.filter_append, receipts_concat, ← ih]
      by_cases ha : a = .receive i
      · have hlive : isLive (actions.filter (Action.concerns i)) i = isLive actions i := by
          rw [isLive, since?_filter, isLive]
          cases since? actions i <;> simp [Action.concerns]
        have htriggered : triggered (actions.filter (Action.concerns i)) i =
            triggered actions i := by
          rw [triggered, since?_filter, triggered]
          cases since? actions i with
          | none => rfl
          | some rest => exact List.count_filter (by rfl)
        have hunread : unread (actions.filter (Action.concerns i)) i = unread actions i := by
          rw [unread, told, ih, htriggered, unread, told]
        rw [List.filter_cons_of_pos (by simp [ha, Action.concerns]), List.filter_nil,
          receipts_concat, heard, if_pos ha, heard, if_pos ha, receive_run, receive_run, hlive,
          hunread]
      · have hheard : ∀ s, heard s i a = [] := fun s => if_neg ha
        rw [hheard, List.append_nil]
        by_cases hconcerns : Action.concerns i a = true
        · rw [List.filter_cons_of_pos hconcerns, List.filter_nil, receipts_concat, hheard,
            List.append_nil]
        · rw [List.filter_cons_of_neg hconcerns, List.filter_nil, List.append_nil]

/-- One thing comes before another in a list with one more item at the end if it does so without
this item, or if this item is the other thing. -/
lemma pair_sublist_concat_iff {α : Type} {a b c : α} {l : List α} :
    [a, b] <+ l ++ [c] ↔ [a, b] <+ l ∨ b = c ∧ a ∈ l := by
  have hreverse : [a, b] <+ l ↔ [b, a] <+ l.reverse := List.reverse_sublist.symm
  rw [hreverse, ← List.reverse_sublist, List.reverse_concat]
  simp [List.cons_sublist_cons']

/-- A subscriber that is there has been told of a signal if it has looked for one after a signal was
triggered. -/
lemma told_pos_iff {actions rest : List Action} {i : Nat} (h : since? actions i = some rest)
    (hleave : .leave i ∉ rest) : 0 < told actions i ↔ [.trigger, .receive i] <+ rest := by
  induction actions using List.reverseRecOn generalizing rest with
  | nil => cases h
  | append_singleton actions a ih =>
      by_cases hnew : a = .subscribe ∧ i = actions.count .subscribe
      · obtain ⟨rfl, hi⟩ := hnew
        rw [since?_concat_subscribe, if_pos hi] at h
        cases h
        rw [told_concat_of_ne (by simp), (tracks_run actions).told_eq_zero i (Nat.le_of_eq hi.symm)]
        simp
      · obtain ⟨before, hbefore, rfl⟩ : ∃ before, since? actions i = some before ∧
            before ++ [a] = rest := by
          rw [← Option.map_eq_some_iff, ← h]
          by_cases ha : a = .subscribe
          · subst ha
            rw [since?_concat_subscribe, if_neg fun hi => hnew ⟨rfl, hi⟩]
          · rw [since?_concat ha]
        rw [List.mem_append, not_or] at hleave
        rw [pair_sublist_concat_iff, ← ih hbefore hleave.1]
        by_cases ha : a = .receive i
        · subst ha
          have hlive : isLive actions i = true := by simp [isLive, hbefore, hleave.1]
          obtain ⟨-, -, -, hsum⟩ := exists_awaited?_of_isLive hlive
          have htriggered : triggered actions i = before.count .trigger := by
            rw [triggered, hbefore, Option.getD_some]
          rw [told_concat_receive, receive_run, if_pos hlive, Nat.add_pos_iff_pos_or_pos,
            Receipt.signals_ofUnread_pos_iff, and_iff_right rfl, ← List.count_pos_iff, ← htriggered]
          omega
        · rw [told_concat_of_ne ha]
          simp [Ne.symm ha]

/-- Of its receipts the first that stands for a signal ends a server. -/
lemma stopped_foldl_heed (server : Server) (told : List Receipt) :
    (told.foldl heed server).stopped = true ↔
      server.stopped = true ∨ 0 < (told.map Receipt.signals).sum := by
  induction told generalizing server with
  | nil => simp
  | cons receipt rest ih =>
      have hstopped : (heed server receipt).stopped = true ↔
          server.stopped = true ∨ 0 < receipt.signals := by
        by_cases hsignals : 0 < receipt.signals
        · cases hserver : server.stopped <;> simp [heed, hsignals, Server.step, hserver]
        · simp [heed, hsignals]
      rw [List.foldl_cons, ih, hstopped, List.map_cons, List.sum_cons,
        Nat.add_pos_iff_pos_or_pos, or_assoc]

/-- **The signal reaches everybody who has subscribed**, after every sequence of actions.

* As many listen as have subscribed and not left, and a new subscriber gets the next number.
* If nobody is there, triggering changes nothing.
* Who is there is told of no more signals than were triggered since the subscription.  A look finds
  something exactly if some of these are left: the one that is left, or of several first how many are
  missed, all but the last, and then the last.
* So a server that waits for the signal, and looks for it from time to time, is ended by a look after
  a signal that was triggered since its subscription, and by nothing else.
* What one subscriber is told does not depend on the looks and the leaving of the others. -/
theorem reaches_subscribers (actions : List Action) :
    (after actions).listening = (List.range (actions.count .subscribe)).countP (isLive actions) ∧
    (after actions).subscribe.1 = actions.count .subscribe ∧
    ((∀ i, isLive actions i = false) → (after actions).trigger = after actions) ∧
    (∀ i, isLive actions i = true →
      told actions i ≤ triggered actions i ∧
      (((after actions).receive i).1 ≠ .empty ↔ told actions i < triggered actions i) ∧
      (triggered actions i = told actions i + 1 → ((after actions).receive i).1 = .signal) ∧
      (∀ k, 2 ≤ k → triggered actions i = told actions i + k →
        ((after actions).receive i).1 = .lagged (k - 1) ∧
        (((after actions).receive i).2.receive i).1 = .signal)) ∧
    (∀ i rest, since? actions i = some rest → .leave i ∉ rest →
      ∀ server : Server, server.stopped = false →
        (((new.receipts i actions).foldl heed server).stopped = true ↔
          [.trigger, .receive i] <+ rest)) ∧
    ∀ i, new.receipts i (actions.filter (Action.concerns i)) = new.receipts i actions := by
  have htracks := tracks_run actions
  have hlistening : (after actions).listening =
      (List.range (actions.count .subscribe)).countP (isLive actions) := by
    rw [listening_eq, htracks.length_eq]
    exact List.countP_congr fun i _ => by rw [htracks.isSome_awaited?]
  refine ⟨hlistening, htracks.length_eq, ?_, ?_, ?_, receipts_filter actions⟩
  · intro hnone
    refine if_pos ?_
    rw [hlistening, List.countP_eq_zero]
    simp [hnone]
  · intro i hlive
    obtain ⟨next, hnext, hsent, hsum⟩ := exists_awaited?_of_isLive hlive
    have hreceipt := receive_run actions i
    rw [if_pos hlive] at hreceipt
    refine ⟨by omega, ?_, ?_, ?_⟩
    · rw [hreceipt, Receipt.ofUnread_ne_empty_iff, ← hsum, Nat.lt_add_right_iff_pos]
    · intro hone
      have hunread : unread actions i = 1 := by omega
      rw [hreceipt, hunread]
      rfl
    · intro k hk hsome
      obtain ⟨m, rfl⟩ := Nat.exists_eq_add_of_le' hk
      have hunread : unread actions i = m + 2 := by omega
      rw [hreceipt, hunread]
      refine ⟨rfl, ?_⟩
      -- the first look leaves the last signal unread, which is what the second one finds
      have hmoved := (receive_of_awaited? hnext (hunread ▸ hsent)).2
      have hlast : next + (m + 1) + 1 = ((after actions).receive i).2.sent := by
        rw [sent_receive]
        omega
      exact (receive_of_awaited? hmoved hlast).1
  · intro i rest hrest hleave server hserver
    rw [stopped_foldl_heed, ← told_pos_iff hrest hleave, hserver]
    exact or_iff_right Bool.false_ne_true

/-- A server that subscribes after a first signal and looks late is told of the second, which it
missed, and of the third, whoever has left before.  It ends.  A signal for nobody is lost. -/
theorem reaches_subscribers_late :
    let actions : List Action := [.subscribe, .trigger, .subscribe, .trigger, .trigger, .leave 0]
    let server : Server := ⟨{}, ⟨.ofList [("en", "/en/")], by decide⟩, {}, false⟩
    triggered actions 1 = 2 ∧ ((after actions).receive 1).1 = .lagged 1 ∧
      (((after actions).receive 1).2.receive 1).1 = .signal ∧
      ((new.receipts 1 (actions ++ [.receive 1])).foldl heed server).stopped = true ∧
      (after [.subscribe, .leave 0]).trigger = after [.subscribe, .leave 0] := by
  intro actions server
  have hlive : isLive actions 1 = true := by decide
  have hnobody : ∀ i, isLive [.subscribe, .leave 0] i = false := by
    intro i
    cases i <;> rfl
  obtain ⟨-, -, -, hlooks, -⟩ := reaches_subscribers actions
  obtain ⟨-, -, -, hlagged⟩ := hlooks 1 hlive
  obtain ⟨-, -, -, -, hends, -⟩ := reaches_subscribers (actions ++ [.receive 1])
  obtain ⟨-, -, hlost, -⟩ := reaches_subscribers [.subscribe, .leave 0]
  have hmissed := hlagged 2 (Nat.le_refl 2) (by decide)
  refine ⟨by decide, hmissed.1, hmissed.2, ?_, hlost hnobody⟩
  exact (hends 1 _ rfl (by decide) server rfl).2 (by decide)

end Signpost.Shutdown

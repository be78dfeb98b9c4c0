import TenantGateway.Proofs.Sync.Channels

/-!
# Watches on one composer

An operation drives or ends at most the channel that it names (`WatchSession.drives`); a closing ends none and asks every channel to end
(`WatchSession.isAsked_perform`). So what a channel handles in a run is a beginning of what is sent to it, broken off by the first refusal,
by the end of its sender or by a request to end (`WatchSession.Drains`), and a channel that was asked to end does so in one of its
turns (`WatchSession.ends_of_heeded`, `WatchSession.ends_of_turns`). To send events and wait for them is a run of that kind
(`WatchSession.send_eq`). What becomes of the composer and which watches are registered
is what the answers tell (`WatchSession.performAll_tells`).
-/

namespace TenantGateway

namespace WatchSession

variable {s : WatchSession} {n : Nat} {kind : ResourceKind}

/-! ## One operation -/

/-- A turn of a channel that lives handles the event that has waited longest, unless a request to end is taken up before it. It ends a
channel that was asked to end, or whose sender is gone, when there is nothing else to do. Else it changes nothing. -/
theorem turn_cases (s : WatchSession) (n : Nat) (heeds : Bool) (order : List TenantId) :
    (∃ kind event rest, s.adapter.kind? n = some kind ∧ s.adapter.isAlive n = true ∧ (heeds && s.adapter.isAsked n) = false ∧
      (s.inbox n).waiting = event :: rest ∧
      s.turn n heeds order = (.handled n ⟨kind, event, order⟩ (s.adapter.sync.perform ⟨kind, event, order⟩).1,
        { s with adapter := s.adapter.deliver n event order }.setInbox n { s.inbox n with waiting := rest })) ∨
    (s.adapter.isAlive n = true ∧ s.turn n heeds order = (.ended n, { s with adapter := s.adapter.stop n }) ∧
      ((s.adapter.isAsked n = true ∧ (heeds = true ∨ (s.inbox n).waiting = [])) ∨
        ((s.inbox n).waiting = [] ∧ (s.inbox n).hungUp = true))) ∨
    (s.turn n heeds order = (.idle, s) ∧
      (s.adapter.isAlive n = true →
        (s.inbox n).waiting = [] ∧ (s.inbox n).hungUp = false ∧ s.adapter.isAsked n = false)) := by
  unfold turn
  rw [Adapter.channel_eq]
  cases hkind : s.adapter.kind? n with
  | none =>
    exact Or.inr (Or.inr ⟨rfl, fun halive => absurd halive (Bool.eq_false_iff.1 (Adapter.of_kind?_none hkind).1)⟩)
  | some kind =>
    cases halive : s.adapter.isAlive n with
    | false => exact Or.inr (Or.inr ⟨rfl, fun h => absurd h Bool.false_ne_true⟩)
    | true =>
      cases hheeded : heeds && s.adapter.isAsked n with
      | true =>
        obtain ⟨hheeds, hasked⟩ := Bool.and_eq_true_iff.1 hheeded
        exact Or.inr (Or.inl ⟨rfl, by simp [hheeded], Or.inl ⟨hasked, Or.inl hheeds⟩⟩)
      | false =>
        cases hwaiting : (s.inbox n).waiting with
        | cons event rest => exact Or.inl ⟨kind, event, rest, rfl, rfl, rfl, rfl, by simp [hheeded]⟩
        | nil =>
          cases hasked : s.adapter.isAsked n with
          | true => exact Or.inr (Or.inl ⟨rfl, by simp, Or.inl ⟨rfl, Or.inr rfl⟩⟩)
          | false =>
            cases hhungUp : (s.inbox n).hungUp with
            | true => exact Or.inr (Or.inl ⟨rfl, by simp, Or.inr ⟨rfl, rfl⟩⟩)
            | false => exact Or.inr (Or.inr ⟨by simp, fun _ => ⟨rfl, rfl, rfl⟩⟩)

/-- A channel that lives handles the event that has waited longest in its turn, unless it takes up a request to end before it. -/
theorem turn_of_waiting (hkind : s.adapter.kind? n = some kind) (halive : s.adapter.isAlive n = true) {heeds : Bool}
    (hheeds : heeds = true → s.adapter.isAsked n = false) {event : ResourceEvent} {rest : List ResourceEvent}
    (hwaiting : (s.inbox n).waiting = event :: rest) (order : List TenantId) :
    s.turn n heeds order = (.handled n ⟨kind, event, order⟩ (s.adapter.sync.perform ⟨kind, event, order⟩).1,
      { s with adapter := s.adapter.deliver n event order }.setInbox n { s.inbox n with waiting := rest }) := by
  rcases s.turn_cases n heeds order with ⟨kind', event', rest', hkind', -, -, hwaiting', hturn⟩ | ⟨-, -, hends⟩ | ⟨-, hidle⟩
  · obtain rfl := Option.some.inj (hkind'.symm.trans hkind)
    obtain ⟨rfl, rfl⟩ := List.cons.inj (hwaiting'.symm.trans hwaiting)
    exact hturn
  · rcases hends with ⟨hasked, hheeded | hempty⟩ | ⟨hempty, -⟩
    · nomatch hasked.symm.trans (hheeds hheeded)
    · nomatch hempty.symm.trans hwaiting
    · nomatch hempty.symm.trans hwaiting
  · nomatch (hidle halive).1.symm.trans hwaiting

/-- The events that a channel has still to handle in a run: those that wait, and those that are sent before its sender is gone. -/
def incoming (s : WatchSession) (n : Nat) (ops : List WatchOp) : List ResourceEvent :=
  (s.inbox n).waiting ++ if (s.inbox n).hungUp then [] else WatchOp.sentTo n ops

/-- What an operation comes to for a channel that lives, by what the channel handles: it is driven by its turns alone, and goes on
living unless an event is refused, its sender is gone or it was asked to end. A turn of a channel that was asked to end is not lost. -/
inductive Drives (s s' : WatchSession) (n : Nat) (kind : ResourceKind) (op : WatchOp) :
    List (SyncOp × Except FeedError SyncOutcome) → Prop
  | aside (halive : s'.adapter.isAlive n = true)
      (hincoming : ∀ ops, s.incoming n (op :: ops) = s'.incoming n ops)
      (hhungUp : (s'.inbox n).hungUp = true → (s.inbox n).hungUp = true ∨ op = .hangUp n)
      (hturn : op.isTurnOf n = true → s.adapter.isAsked n = false) : Drives s s' n kind op []
  | handled {event : ResourceEvent} {order : List TenantId} {answer : Except FeedError SyncOutcome}
      (halive : s'.adapter.isAlive n = true ↔ answer ≠ .error .closed)
      (hincoming : ∀ ops, s.incoming n (op :: ops) = event :: s'.incoming n ops)
      (hhungUp : (s'.inbox n).hungUp = true → (s.inbox n).hungUp = true) : Drives s s' n kind op [(⟨kind, event, order⟩, answer)]
  | hungUp (hended : s'.adapter.isAlive n = false) (hhungUp : (s.inbox n).hungUp = true)
      (hwaiting : (s.inbox n).waiting = []) : Drives s s' n kind op []
  | heeded (hended : s'.adapter.isAlive n = false) (hasked : s.adapter.isAsked n = true) : Drives s s' n kind op []

/-- The inboxes when one of them is replaced. -/
theorem inbox_setInbox (s : WatchSession) (m : Nat) (inbox : Inbox) (n : Nat) :
    (s.setInbox m inbox).inbox n = if n = m then inbox else s.inbox n := rfl

/-- Only turns of the channel handle events for it. -/
theorem handledBy_singleton (n : Nat) (answer : WatchAnswer) :
    WatchAnswer.handledBy n [answer] = match answer with
      | .handled m op result => if m = n then [(op, result)] else []
      | _ => [] := by
  cases answer with
  | handled m op result => by_cases h : m = n <;> simp [WatchAnswer.handledBy, h]
  | _ => rfl

/-- An operation that is about neither the inbox nor the sender of a channel does not change what the channel has still to handle. -/
theorem incoming_congr {s' : WatchSession} {op : WatchOp} {ops : List WatchOp} (hinbox : s'.inbox n = s.inbox n)
    (hsent : WatchOp.sentTo n (op :: ops) = WatchOp.sentTo n ops) : s.incoming n (op :: ops) = s'.incoming n ops := by
  rw [incoming, incoming, hinbox, hsent]

/-- An operation that is no turn of the channel, leaves it alive and changes nothing in its inbox drives nothing. -/
theorem Drives.beside {s' : WatchSession} {op : WatchOp} (halive : s'.adapter.isAlive n = true) (hinbox : s'.inbox n = s.inbox n)
    (hsent : ∀ ops, WatchOp.sentTo n (op :: ops) = WatchOp.sentTo n ops) (hturn : op.isTurnOf n = false) :
    s.Drives s' n kind op [] :=
  .aside halive (fun ops => incoming_congr hinbox (hsent ops)) (fun h => Or.inl (hinbox ▸ h))
    fun h => absurd h (Bool.eq_false_iff.1 hturn)

/-- What an operation comes to for a channel that lives. -/
theorem drives (hregistered : s.adapter.Registered) (hkind : s.adapter.kind? n = some kind) (halive : s.adapter.isAlive n = true)
    (op : WatchOp) : s.Drives (s.perform op).2 n kind op (WatchAnswer.handledBy n [(s.perform op).1]) := by
  rw [handledBy_singleton]
  cases op with
  | watch kind' =>
    have hne := Adapter.ne_length_of_kind? hkind
    exact .beside ((s.adapter.isAlive_watch kind' n).trans ((if_neg hne).trans halive)) (if_neg hne) (fun ops => rfl) rfl
  | register name kind' fails => exact .beside halive rfl (fun ops => rfl) rfl
  | send m event =>
    by_cases hm : m = n
    · subst hm
      rw [perform, halive, Bool.true_and]
      cases hhungUp : (s.inbox m).hungUp with
      | true => exact .aside halive (fun ops => by simp [incoming, hhungUp]) Or.inl (by simp [WatchOp.isTurnOf])
      | false =>
        refine .aside halive (fun ops => ?_) (fun h => ?_) (by simp [WatchOp.isTurnOf])
        · simp [incoming, inbox_setInbox, hhungUp, WatchOp.sentTo]
        · simp [inbox_setInbox, hhungUp] at h
    · rw [perform]
      by_cases haccepted : (s.adapter.isAlive m && !(s.inbox m).hungUp) = true
      · rw [if_pos haccepted]
        exact .beside halive (if_neg (Ne.symm hm)) (fun ops => if_neg hm) rfl
      · rw [if_neg haccepted]
        exact .beside halive rfl (fun ops => if_neg hm) rfl
  | hangUp m =>
    by_cases hm : m = n
    · subst hm
      exact .aside halive (fun ops => by simp [perform, incoming, inbox_setInbox, WatchOp.sentTo]) (fun _ => Or.inr rfl)
        (by simp [WatchOp.isTurnOf])
    · exact .beside halive (if_neg (Ne.symm hm)) (fun ops => if_neg hm) rfl
  | turn m heeds order =>
    rw [perform]
    by_cases hm : m = n
    · subst hm
      rcases s.turn_cases m heeds order with ⟨kind', event, rest, hkind', -, -, hwaiting, hturn⟩ | ⟨-, hturn, hends⟩ |
        ⟨hturn, hidle⟩
      · obtain rfl := Option.some.inj (hkind'.symm.trans hkind)
        rw [hturn]
        dsimp only
        rw [if_pos rfl]
        refine .handled ?_ (fun ops => ?_) fun h => ?_
        · exact (Adapter.isAlive_deliver hkind halive event order m).trans
            ⟨fun h => h.2 rfl, fun h => ⟨halive, fun _ => h⟩⟩
        · simp [incoming, inbox_setInbox, hwaiting, WatchOp.sentTo]
        · simpa [inbox_setInbox] using h
      · have hended : (s.adapter.stop m).isAlive m = false := by simp [Adapter.isAlive_stop]
        rw [hturn]
        rcases hends with ⟨hasked, -⟩ | ⟨hwaiting, hhungUp⟩
        · exact .heeded hended hasked
        · exact .hungUp hended hhungUp hwaiting
      · rw [hturn]
        exact .aside halive (fun ops => incoming_congr rfl rfl) Or.inl fun _ => (hidle halive).2.2
    · have hother : (WatchOp.turn m heeds order).isTurnOf n = false := decide_eq_false hm
      rcases s.turn_cases m heeds order with ⟨kind', event, rest, hkind', halive', -, -, hturn⟩ | ⟨-, hturn, -⟩ | ⟨hturn, -⟩
      · rw [hturn]
        dsimp only
        rw [if_neg hm]
        refine .beside ?_ (if_neg (Ne.symm hm)) (fun ops => rfl) hother
        exact (Adapter.isAlive_deliver hkind' halive' event order n).2 ⟨halive, fun he => absurd he.symm hm⟩
      · rw [hturn]
        refine .beside ?_ rfl (fun ops => rfl) hother
        rw [Adapter.isAlive_stop, halive, Bool.true_and, decide_eq_true (Ne.symm hm)]
      · rw [hturn]
        exact .beside halive rfl (fun ops => rfl) hother
  | closeComposer => exact .beside halive rfl (fun ops => rfl) rfl
  | close => exact .beside ((hregistered.close.2.2.2.2.1 n).trans halive) rfl (fun ops => rfl) rfl

/-- What an operation does to the watches: it opens or registers one, or closes those registered, or changes no more than whether
channels live. -/
theorem adapter_perform (s : WatchSession) (op : WatchOp) :
    (∃ kind, op = .watch kind ∧ (s.perform op).2.adapter = (s.adapter.watch kind).2) ∨
      (∃ name kind fails, op = .register name kind fails ∧
        (s.perform op).2.adapter = s.adapter.register (.external name kind fails)) ∨
      (op = .close ∧ (s.perform op).2.adapter = s.adapter.close.2) ∨ (op ≠ .close ∧ s.adapter.Keeps (s.perform op).2.adapter) := by
  cases op with
  | watch kind => exact Or.inl ⟨kind, rfl, rfl⟩
  | register name kind fails => exact Or.inr (Or.inl ⟨name, kind, fails, rfl, rfl⟩)
  | close => exact Or.inr (Or.inr (Or.inl ⟨rfl, rfl⟩))
  | send m event =>
    refine Or.inr (Or.inr (Or.inr ⟨WatchOp.noConfusion, ?_⟩))
    rw [perform]
    split <;> exact .refl s.adapter
  | hangUp m => exact Or.inr (Or.inr (Or.inr ⟨WatchOp.noConfusion, .refl s.adapter⟩))
  | turn m heeds order =>
    refine Or.inr (Or.inr (Or.inr ⟨WatchOp.noConfusion, ?_⟩))
    rw [perform]
    rcases s.turn_cases m heeds order with ⟨_, event, _, -, -, -, -, hturn⟩ | ⟨-, hturn, -⟩ | ⟨hturn, -⟩
    · rw [hturn]
      exact s.adapter.keeps_deliver m event order
    · rw [hturn]
      exact s.adapter.keeps_stop m
    · rw [hturn]
      exact .refl s.adapter
  | closeComposer => exact Or.inr (Or.inr (Or.inr ⟨WatchOp.noConfusion, rfl, fun _ => rfl, fun _ => rfl, fun _ => id⟩))

/-- The registered watches stay the channels that nobody asked to end. -/
theorem registered_perform (h : s.adapter.Registered) (op : WatchOp) : (s.perform op).2.adapter.Registered := by
  rcases s.adapter_perform op with ⟨kind, -, hadapter⟩ | ⟨name, kind, fails, -, hadapter⟩ | ⟨-, hadapter⟩ | ⟨-, hkeeps⟩
  · exact hadapter ▸ h.watch kind
  · exact hadapter ▸ h.register name kind fails
  · exact hadapter ▸ h.closed
  · exact h.keeps hkeeps

/-- A channel keeps its kind. -/
theorem kind?_perform (h : s.adapter.Registered) (hkind : s.adapter.kind? n = some kind) (op : WatchOp) :
    (s.perform op).2.adapter.kind? n = some kind := by
  rcases s.adapter_perform op with ⟨kind', -, hadapter⟩ | ⟨name, kind', fails, -, hadapter⟩ | ⟨-, hadapter⟩ | ⟨-, hkeeps⟩
  · rw [hadapter, Adapter.kind?_watch, if_neg (Adapter.ne_length_of_kind? hkind)]
    exact hkind
  · rw [hadapter]
    exact hkind
  · rw [hadapter, h.close.2.2.2.1]
    exact hkind
  · rw [hkeeps.kinds]
    exact hkind

/-- A channel is asked to end by a closing and by nothing else, and the request stands. -/
theorem isAsked_perform (h : s.adapter.Registered) (hkind : s.adapter.kind? n = some kind) (op : WatchOp) :
    (s.perform op).2.adapter.isAsked n = true ↔ s.adapter.isAsked n = true ∨ op = .close := by
  rcases s.adapter_perform op with ⟨kind', rfl, hadapter⟩ | ⟨name, kind', fails, rfl, hadapter⟩ | ⟨rfl, hadapter⟩ | ⟨hop, hkeeps⟩
  · rw [hadapter, Adapter.isAsked_watch, if_neg (Adapter.ne_length_of_kind? hkind)]
    simp
  · rw [hadapter]
    exact (or_iff_left WatchOp.noConfusion).symm
  · rw [hadapter, h.close.2.2.2.2.2, hkind]
    simp
  · rw [hkeeps.asked]
    exact (or_iff_left hop).symm

/-- A channel that has ended handles nothing. -/
theorem handledBy_perform_of_ended (hended : s.adapter.isAlive n = false) (op : WatchOp) :
    WatchAnswer.handledBy n [(s.perform op).1] = [] := by
  rw [handledBy_singleton]
  cases op with
  | turn m heeds order =>
    rw [perform]
    rcases s.turn_cases m heeds order with ⟨kind', event, rest, -, halive, -, -, hturn⟩ | ⟨-, hturn, -⟩ | ⟨hturn, -⟩
    · rw [hturn]
      refine if_neg ?_
      rintro rfl
      exact Bool.eq_false_iff.1 hended halive
    · rw [hturn]
    · rw [hturn]
  | send m event =>
    rw [perform]
    cases s.adapter.isAlive m && !(s.inbox m).hungUp <;> rfl
  | _ => rfl

/-- A channel that has ended stays so. -/
theorem isAlive_perform_of_ended (h : s.adapter.Registered) (hkind : s.adapter.kind? n = some kind)
    (hended : s.adapter.isAlive n = false) (op : WatchOp) : (s.perform op).2.adapter.isAlive n = false := by
  rcases s.adapter_perform op with ⟨kind', -, hadapter⟩ | ⟨name, kind', fails, -, hadapter⟩ | ⟨-, hadapter⟩ | ⟨-, hkeeps⟩
  · rw [hadapter, Adapter.isAlive_watch, if_neg (Adapter.ne_length_of_kind? hkind)]
    exact hended
  · rw [hadapter]
    exact hended
  · rw [hadapter]
    exact (h.close.2.2.2.2.1 n).trans hended
  · exact Bool.eq_false_iff.2 fun halive => Bool.eq_false_iff.1 hended (hkeeps.alive n halive)

/-! ## Runs -/

/-- What a channel handled by the first answer and by the others. -/
theorem handledBy_cons (n : Nat) (answer : WatchAnswer) (answers : List WatchAnswer) :
    WatchAnswer.handledBy n (answer :: answers) = WatchAnswer.handledBy n [answer] ++ WatchAnswer.handledBy n answers :=
  List.filterMap_append (l := [answer])

/-- A channel that has ended stays so, and handles nothing, in every run. -/
theorem ended_performAll (h : s.adapter.Registered) (hkind : s.adapter.kind? n = some kind) (hended : s.adapter.isAlive n = false)
    (ops : List WatchOp) : (performAll perform s ops).2.adapter.isAlive n = false ∧
      WatchAnswer.handledBy n (performAll perform s ops).1 = [] := by
  induction ops generalizing s with
  | nil => exact ⟨hended, rfl⟩
  | cons op ops ih =>
    obtain ⟨hlast, hrest⟩ := ih (registered_perform h op) (kind?_perform h hkind op) (isAlive_perform_of_ended h hkind hended op)
    refine ⟨hlast, ?_⟩
    rw [performAll_cons, handledBy_cons, handledBy_perform_of_ended hended, hrest]
    rfl

/-- The registered watches are the channels that nobody asked to end, after every run. -/
theorem registered_performAll (h : s.adapter.Registered) (ops : List WatchOp) : (performAll perform s ops).2.adapter.Registered :=
  performAll_invariant (P := fun s : WatchSession => s.adapter.Registered) (fun op _ _ h => registered_perform h op) h

/-- A channel keeps its kind in every run. -/
theorem kind?_performAll (h : s.adapter.Registered) (hkind : s.adapter.kind? n = some kind) (ops : List WatchOp) :
    (performAll perform s ops).2.adapter.kind? n = some kind := by
  induction ops generalizing s with
  | nil => exact hkind
  | cons op ops ih => exact ih (registered_perform h op) (kind?_perform h hkind op)

/-- After a run, a channel was asked to end when it was before or when the adapter was closed in the run. -/
theorem isAsked_performAll (h : s.adapter.Registered) (hkind : s.adapter.kind? n = some kind) (ops : List WatchOp) :
    (performAll perform s ops).2.adapter.isAsked n = true ↔ s.adapter.isAsked n = true ∨ .close ∈ ops := by
  induction ops generalizing s with
  | nil => simp [performAll]
  | cons op ops ih =>
    rw [performAll_cons, ih (registered_perform h op) (kind?_perform h hkind op), isAsked_perform h hkind, List.mem_cons, or_assoc,
      eq_comm (a := op)]

/-- What a channel handles in a run is a beginning of what it has to handle, and only the last of it may be refused. When it lives in the
end it has handled everything but what waits, and nothing was refused. It has ended only after a refusal, or after its sender was gone
and everything was handled, or after it was asked to end. -/
structure Drains (s : WatchSession) (n : Nat) (kind : ResourceKind) (ops : List WatchOp)
    (handled : List (SyncOp × Except FeedError SyncOutcome)) (last : WatchSession) : Prop where
  kind : ∀ h ∈ handled, h.1.kind = kind
  order : handled.map (·.1.event) <+: s.incoming n ops
  refused : handled.Pairwise fun earlier _ => earlier.2 ≠ .error .closed
  alive : last.adapter.isAlive n = true →
    handled.map (·.1.event) ++ (last.inbox n).waiting = s.incoming n ops ∧ ∀ h ∈ handled, h.2 ≠ .error .closed
  ended : last.adapter.isAlive n = false →
    (∃ h, handled.getLast? = some h ∧ h.2 = .error .closed) ∨
      (((s.inbox n).hungUp = true ∨ .hangUp n ∈ ops) ∧ handled.map (·.1.event) = s.incoming n ops) ∨
      last.adapter.isAsked n = true

/-- An operation that leaves a channel alive and drives nothing may come before a run that drains its inbox. -/
theorem Drains.after_aside {s' last : WatchSession} {op : WatchOp} {ops : List WatchOp}
    {handled : List (SyncOp × Except FeedError SyncOutcome)} (hincoming : ∀ ops, s.incoming n (op :: ops) = s'.incoming n ops)
    (hhungUp : (s'.inbox n).hungUp = true → (s.inbox n).hungUp = true ∨ op = .hangUp n) (hrest : s'.Drains n kind ops handled last) :
    s.Drains n kind (op :: ops) handled last := by
  obtain ⟨hkinds, horder, hrefused, hlives, hends⟩ := hrest
  rw [← hincoming] at horder hlives hends
  refine ⟨hkinds, horder, hrefused, hlives, fun hlast => ?_⟩
  rcases hends hlast with hlast | ⟨hgone, hall⟩ | hasked
  · exact Or.inl hlast
  · refine Or.inr (Or.inl ⟨?_, hall⟩)
    rcases hgone with hgone | hgone
    · exact (hhungUp hgone).imp_right fun he : op = .hangUp n => he ▸ List.mem_cons_self
    · exact Or.inr (List.mem_cons_of_mem op hgone)
  · exact Or.inr (Or.inr hasked)

/-- A turn that handles an event which is not refused may come before a run that drains the inbox. -/
theorem Drains.after_handled {s' last : WatchSession} {op : WatchOp} {ops : List WatchOp} {event : ResourceEvent} {order : List TenantId}
    {answer : Except FeedError SyncOutcome} {handled : List (SyncOp × Except FeedError SyncOutcome)}
    (hincoming : ∀ ops, s.incoming n (op :: ops) = event :: s'.incoming n ops)
    (hhungUp : (s'.inbox n).hungUp = true → (s.inbox n).hungUp = true) (hanswer : answer ≠ .error .closed)
    (hrest : s'.Drains n kind ops handled last) : s.Drains n kind (op :: ops) ((⟨kind, event, order⟩, answer) :: handled) last := by
  obtain ⟨hkinds, horder, hrefused, hlives, hends⟩ := hrest
  refine ⟨List.forall_mem_cons.2 ⟨rfl, hkinds⟩, ?_, List.pairwise_cons.2 ⟨fun _ _ => hanswer, hrefused⟩, fun hlast => ?_,
    fun hlast => ?_⟩
  · rw [hincoming]
    exact List.cons_prefix_cons.2 ⟨rfl, horder⟩
  · obtain ⟨hall, hok⟩ := hlives hlast
    refine ⟨?_, List.forall_mem_cons.2 ⟨hanswer, hok⟩⟩
    rw [hincoming, ← hall]
    rfl
  · rcases hends hlast with ⟨last, hlast, hclosed⟩ | ⟨hgone, hall⟩ | hasked
    · exact Or.inl ⟨last, by rw [List.getLast?_cons, hlast]; rfl, hclosed⟩
    · refine Or.inr (Or.inl ⟨hgone.imp hhungUp (List.mem_cons_of_mem op), ?_⟩)
      rw [hincoming, ← hall]
      rfl
    · exact Or.inr (Or.inr hasked)

/-- A run that leaves a channel ended after handling nothing drains its inbox, when its sender was gone with nothing left, or it was
asked to end. -/
theorem drains_nothing {last : WatchSession} {ops : List WatchOp} (hended : last.adapter.isAlive n = false)
    (hreason : (s.inbox n).hungUp = true ∧ s.incoming n ops = [] ∨ last.adapter.isAsked n = true) : s.Drains n kind ops [] last := by
  refine ⟨by simp, List.nil_prefix, List.Pairwise.nil, fun hlives => ?_, fun _ => ?_⟩
  · nomatch hended.symm.trans hlives
  · exact Or.inr (hreason.imp_left fun ⟨hhungUp, hincoming⟩ => ⟨Or.inl hhungUp, hincoming.symm⟩)

/-- A channel that lives drains its inbox. -/
theorem drains (h : s.adapter.Registered) (hkind : s.adapter.kind? n = some kind) (halive : s.adapter.isAlive n = true)
    (ops : List WatchOp) :
    s.Drains n kind ops (WatchAnswer.handledBy n (performAll perform s ops).1) (performAll perform s ops).2 := by
  induction ops generalizing s with
  | nil =>
    refine ⟨by simp [WatchAnswer.handledBy], List.nil_prefix, List.Pairwise.nil, fun _ => ⟨?_, by simp [WatchAnswer.handledBy]⟩,
      fun hended => ?_⟩
    · simp [WatchAnswer.handledBy, incoming, WatchOp.sentTo]
    · nomatch halive.symm.trans hended
  | cons op ops ih =>
    have hdrives := drives h hkind halive op
    have hregistered' := registered_perform h op
    have hkind' := kind?_perform h hkind op
    rw [performAll_cons, handledBy_cons]
    dsimp only
    generalize WatchAnswer.handledBy n [(s.perform op).1] = first at hdrives ⊢
    cases hdrives with
    | aside halive' hincoming hhungUp _ => exact (ih hregistered' hkind' halive').after_aside hincoming hhungUp
    | @handled event order answer halive' hincoming hhungUp =>
      rw [List.singleton_append]
      by_cases hanswer : answer = .error .closed
      · have hended : (s.perform op).2.adapter.isAlive n = false := Bool.eq_false_iff.2 fun hlives => halive'.1 hlives hanswer
        obtain ⟨hlast, hnothing⟩ := ended_performAll hregistered' hkind' hended ops
        rw [hnothing]
        refine ⟨by simp, ?_, List.pairwise_singleton _ _, fun hlives => ?_, fun _ => Or.inl ⟨_, rfl, hanswer⟩⟩
        · rw [hincoming]
          exact List.cons_prefix_cons.2 ⟨rfl, List.nil_prefix⟩
        · nomatch hlast.symm.trans hlives
      · exact (ih hregistered' hkind' (halive'.2 hanswer)).after_handled hincoming hhungUp hanswer
    | hungUp hended hhungUp hwaiting =>
      obtain ⟨hlast, hnothing⟩ := ended_performAll hregistered' hkind' hended ops
      have hincoming : s.incoming n (op :: ops) = [] := by rw [incoming, hwaiting, if_pos hhungUp]; rfl
      rw [hnothing, List.nil_append]
      exact drains_nothing hlast (Or.inl ⟨hhungUp, hincoming⟩)
    | heeded hended hasked =>
      obtain ⟨hlast, hnothing⟩ := ended_performAll hregistered' hkind' hended ops
      have hasked' := (isAsked_perform h hkind op).2 (Or.inl hasked)
      rw [hnothing, List.nil_append]
      exact drains_nothing hlast (Or.inr ((isAsked_performAll hregistered' hkind' ops).2 (Or.inl hasked')))

/-! ## Ending on request -/

/-- A channel that was asked to end and takes up requests before events ends in its turn. -/
theorem turn_of_asked (halive : s.adapter.isAlive n = true) (hasked : s.adapter.isAsked n = true) (order : List TenantId) :
    s.turn n true order = (.ended n, { s with adapter := s.adapter.stop n }) := by
  rcases s.turn_cases n true order with ⟨_, _, _, -, -, hheeded, -, -⟩ | ⟨-, hturn, -⟩ | ⟨-, hidle⟩
  · rw [hasked] at hheeded
    nomatch hheeded
  · exact hturn
  · nomatch hasked.symm.trans (hidle halive).2.2

/-- A channel that was asked to end has ended after a run in which it takes up requests before events once. -/
theorem ends_of_heeded (h : s.adapter.Registered) (hkind : s.adapter.kind? n = some kind) (hasked : s.adapter.isAsked n = true)
    {ops : List WatchOp} {order : List TenantId} (hheeds : .turn n true order ∈ ops) :
    (performAll perform s ops).2.adapter.isAlive n = false := by
  obtain ⟨before, after, rfl⟩ := List.append_of_mem hheeds
  have hregistered := registered_performAll h before
  have hkind' := kind?_performAll h hkind before
  rw [performAll_append, performAll_cons]
  dsimp only
  cases halive : (performAll perform s before).2.adapter.isAlive n with
  | false =>
    exact (ended_performAll (registered_perform hregistered _) (kind?_perform hregistered hkind' _)
      (isAlive_perform_of_ended hregistered hkind' halive _) after).1
  | true =>
    refine (ended_performAll (registered_perform hregistered _) (kind?_perform hregistered hkind' _) ?_ after).1
    rw [perform, turn_of_asked halive ((isAsked_performAll h hkind before).2 (Or.inl hasked))]
    simp [Adapter.isAlive_stop]

/-- Whatever a channel does that was asked to end: while nothing is sent to it, a turn of its takes an event out of its inbox or ends
it. -/
theorem waiting_of_asked (h : s.adapter.Registered) (hkind : s.adapter.kind? n = some kind) (halive : s.adapter.isAlive n = true)
    (hasked : s.adapter.isAsked n = true) {op : WatchOp} (hsend : ∀ event, op ≠ .send n event)
    (halive' : (s.perform op).2.adapter.isAlive n = true) :
    ((s.perform op).2.inbox n).waiting.length + [op].countP (WatchOp.isTurnOf n) ≤ (s.inbox n).waiting.length := by
  have hunsent : WatchOp.sentTo n [op] = [] := by
    cases op with
    | send m event =>
      refine if_neg ?_
      rintro rfl
      exact hsend event rfl
    | hangUp m => exact ite_self []
    | _ => rfl
  have hlength : ∀ s : WatchSession, (s.incoming n []).length = (s.inbox n).waiting.length := by simp [incoming, WatchOp.sentTo]
  have hbefore : (s.incoming n [op]).length = (s.inbox n).waiting.length := by simp [incoming, hunsent]
  have hdrives := drives h hkind halive op
  generalize WatchAnswer.handledBy n [(s.perform op).1] = handled at hdrives
  cases hdrives with
  | aside _ hincoming _ hturn =>
    have hno : op.isTurnOf n = false := Bool.eq_false_iff.2 fun hturns => nomatch hasked.symm.trans (hturn hturns)
    rw [List.countP_singleton, hno, ← hbefore, hincoming, hlength]
    exact Nat.le_refl _
  | handled _ hincoming _ =>
    rw [← hbefore, hincoming, List.length_cons, hlength]
    exact Nat.add_le_add_left List.countP_le_length _
  | hungUp hended => nomatch hended.symm.trans halive'
  | heeded hended => nomatch hended.symm.trans halive'

/-- A channel that was asked to end has ended after more turns than events wait for it, when nothing more is sent to it. -/
theorem ends_of_turns (h : s.adapter.Registered) (hkind : s.adapter.kind? n = some kind) (hasked : s.adapter.isAsked n = true)
    {ops : List WatchOp} (hsend : ∀ event, .send n event ∉ ops)
    (hturns : (s.inbox n).waiting.length < ops.countP (WatchOp.isTurnOf n)) :
    (performAll perform s ops).2.adapter.isAlive n = false := by
  induction ops generalizing s with
  | nil => exact absurd hturns (Nat.not_lt_zero _)
  | cons op ops ih =>
    have hregistered := registered_perform h op
    have hkind' := kind?_perform h hkind op
    rw [performAll_cons]
    cases halive : s.adapter.isAlive n with
    | false => exact (ended_performAll hregistered hkind' (isAlive_perform_of_ended h hkind halive op) ops).1
    | true =>
      cases halive' : (s.perform op).2.adapter.isAlive n with
      | false => exact (ended_performAll hregistered hkind' halive' ops).1
      | true =>
        have hfewer := waiting_of_asked h hkind halive hasked (fun event he => hsend event (he ▸ List.mem_cons_self)) halive'
        refine ih hregistered hkind' ((isAsked_perform h hkind op).2 (Or.inl hasked))
          (fun event hmem => hsend event (List.mem_cons_of_mem op hmem)) ?_
        rw [← List.singleton_append, List.countP_append] at hturns
        omega

/-! ## Sending and waiting -/

/-- Events that are sent one after the other to a channel that lives wait in its inbox. -/
theorem performAll_sends (halive : s.adapter.isAlive n = true) (hhungUp : (s.inbox n).hungUp = false) (events : List ResourceEvent) :
    (performAll perform s (events.map (.send n))).2.adapter = s.adapter ∧
      (performAll perform s (events.map (.send n))).2.inbox n = ⟨(s.inbox n).waiting ++ events, false⟩ := by
  induction events generalizing s with
  | nil =>
    refine ⟨rfl, ?_⟩
    rw [List.append_nil, ← hhungUp]
    rfl
  | cons event events ih =>
    have hsent : (s.perform (.send n event)).2 = s.setInbox n { s.inbox n with waiting := (s.inbox n).waiting ++ [event] } := by
      simp [perform, halive, hhungUp]
    have hinbox : (s.perform (.send n event)).2.inbox n = ⟨(s.inbox n).waiting ++ [event], false⟩ := by
      rw [hsent, inbox_setInbox, if_pos rfl, ← hhungUp]
    have hadapter : (s.perform (.send n event)).2.adapter = s.adapter := by rw [hsent]; rfl
    obtain ⟨hadapter', hinbox'⟩ := ih (hadapter ▸ halive) (congrArg Inbox.hungUp hinbox)
    refine ⟨hadapter'.trans hadapter, hinbox'.trans ?_⟩
    rw [hinbox, List.append_assoc]
    rfl

/-- What waits for a channel is delivered to it in as many turns that take up events first; once it has ended, nothing is. -/
theorem performAll_turns (hkind : s.adapter.kind? n = some kind) (order : List TenantId)
    {events : List ResourceEvent} (hwaiting : s.adapter.isAlive n = true → (s.inbox n).waiting = events) :
    (performAll perform s (List.replicate events.length (.turn n false order))).2.adapter =
      events.foldl (fun a event => a.deliver n event order) s.adapter := by
  induction events generalizing s with
  | nil => rfl
  | cons event events ih =>
    rw [List.length_cons, List.replicate_succ, performAll_cons, List.foldl_cons, perform]
    cases halive : s.adapter.isAlive n with
    | true =>
      have hkeeps := s.adapter.keeps_deliver n event order
      have hturn := turn_of_waiting hkind halive (fun h : false = true => absurd h Bool.false_ne_true) (hwaiting halive) order
      rw [hturn]
      refine ih ((hkeeps.kinds n).trans hkind) fun _ => ?_
      rw [inbox_setInbox, if_pos rfl]
    | false =>
      have hturn : (s.turn n false order).2 = s := by simp [turn, Adapter.channel_eq, hkind, halive]
      rw [hturn, Adapter.deliver_of_ended halive]
      exact ih hkind fun halive' => nomatch halive.symm.trans halive'

/-- Sending events to a channel and waiting until it has handled them is the sending of each and as many turns. -/
theorem send_eq (hasked : s.adapter.isAsked n = false) (halive : s.adapter.isAlive n = true) (hinbox : s.inbox n = ⟨[], false⟩)
    (events : List ResourceEvent) (order : List TenantId) :
    s.adapter.send n events order =
      some (performAll perform s (events.map (.send n) ++ List.replicate events.length (.turn n false order))).2.adapter := by
  obtain ⟨kind, hkind⟩ := Adapter.kind?_of_isAlive halive
  obtain ⟨hadapter, hinbox'⟩ := performAll_sends halive (congrArg Inbox.hungUp hinbox) events
  have hrunning : s.adapter.isRunning n = true := by rw [Adapter.isRunning, halive, hasked]; rfl
  have hwaiting : ((performAll perform s (events.map (.send n))).2.inbox n).waiting = events := by rw [hinbox', hinbox]; rfl
  rw [Adapter.send, if_pos hrunning, performAll_append]
  rw [← hadapter] at hkind ⊢
  exact congrArg some (performAll_turns hkind order fun _ => hwaiting).symm

/-! ## What the answers tell -/

/-- What happens to the composer and to the registered watches is what the answer tells. -/
theorem perform_tells (h : s.adapter.Registered) (op : WatchOp) :
    (s.perform op).2.adapter.sync = (s.perform op).1.reaches s.adapter.sync ∧
      (s.perform op).2.adapter.watches = (s.perform op).1.registers s.adapter.watches := by
  cases op with
  | watch kind => exact ⟨rfl, rfl⟩
  | register name kind fails => exact ⟨rfl, rfl⟩
  | send m event =>
    rw [perform]
    split <;> exact ⟨rfl, rfl⟩
  | hangUp m => exact ⟨rfl, rfl⟩
  | turn m heeds order =>
    rw [perform]
    rcases s.turn_cases m heeds order with ⟨kind, event, rest, hkind, halive, -, -, hturn⟩ | ⟨-, hturn, -⟩ | ⟨hturn, -⟩
    · rw [hturn]
      exact ⟨Adapter.sync_deliver hkind halive event order, (s.adapter.keeps_deliver m event order).watches⟩
    · rw [hturn]
      exact ⟨rfl, rfl⟩
    · rw [hturn]
      exact ⟨rfl, rfl⟩
  | closeComposer => exact ⟨rfl, rfl⟩
  | close =>
    obtain ⟨-, hsync, hwatches, -⟩ := h.close
    exact ⟨hsync, hwatches⟩

/-- An event is answered as the composer has it. -/
theorem answer_perform {op : WatchOp} {event : SyncOp} {answer : Except FeedError SyncOutcome}
    (h : (s.perform op).1 = .handled n event answer) : answer = (s.adapter.sync.perform event).1 := by
  cases op with
  | turn m heeds order =>
    rw [perform] at h
    rcases s.turn_cases m heeds order with ⟨kind, event', rest, -, -, -, -, hturn⟩ | ⟨-, hturn, -⟩ | ⟨hturn, -⟩
    · rw [hturn] at h
      obtain ⟨-, rfl, rfl⟩ := WatchAnswer.handled.inj h
      rfl
    · rw [hturn] at h
      cases h
    · rw [hturn] at h
      cases h
  | send m event' =>
    rw [perform] at h
    split at h <;> cases h
  | _ => cases h

/-- What happens to the composer and to the registered watches in a run is what the answers tell, one after the other. -/
theorem performAll_tells (h : s.adapter.Registered) (ops : List WatchOp) :
    (performAll perform s ops).2.adapter.sync = (performAll perform s ops).1.foldl WatchAnswer.reaches s.adapter.sync ∧
      (performAll perform s ops).2.adapter.watches = (performAll perform s ops).1.foldl WatchAnswer.registers s.adapter.watches := by
  induction ops generalizing s with
  | nil => exact ⟨rfl, rfl⟩
  | cons op ops ih =>
    obtain ⟨hsync, hwatches⟩ := perform_tells h op
    rw [performAll_cons, List.foldl_cons, List.foldl_cons, ← hsync, ← hwatches]
    exact ih (registered_perform h op)

/-- Every event of a run is answered as the composer has it, given what reached it before. -/
theorem answer_performAll (h : s.adapter.Registered) (ops : List WatchOp) {earlier later : List WatchAnswer} {event : SyncOp}
    {answer : Except FeedError SyncOutcome} (hsplit : (performAll perform s ops).1 = earlier ++ .handled n event answer :: later) :
    answer = ((earlier.foldl WatchAnswer.reaches s.adapter.sync).perform event).1 := by
  induction ops generalizing s earlier with
  | nil => simp at hsplit
  | cons op ops ih =>
    rw [performAll_cons] at hsplit
    cases earlier with
    | nil => exact answer_perform (List.cons.inj hsplit).1
    | cons first earlier =>
      obtain ⟨rfl, hrest⟩ := List.cons.inj hsplit
      rw [List.foldl_cons, ← (perform_tells h op).1]
      exact ih (registered_perform h op) hrest

/-- A channel that is not opened in a run handles nothing in it. -/
theorem handledBy_of_not_opened (h : s.adapter.Registered) {ops : List WatchOp}
    (hkind : (performAll perform s ops).2.adapter.kind? n = none) : WatchAnswer.handledBy n (performAll perform s ops).1 = [] := by
  induction ops generalizing s with
  | nil => rfl
  | cons op ops ih =>
    have hnone : s.adapter.kind? n = none := by
      rw [Option.eq_none_iff_forall_ne_some]
      intro kind hsome
      nomatch hkind.symm.trans (kind?_performAll h hsome (op :: ops))
    rw [performAll_cons, handledBy_cons, handledBy_perform_of_ended (Adapter.of_kind?_none hnone).1]
    exact ih (registered_perform h op) hkind

/-- A channel that is opened in a run drains what is sent to it from then on, and is asked to end when the adapter is closed after it. -/
theorem drains_watch (h : s.adapter.Registered) (before : List WatchOp) (kind : ResourceKind) (after : List WatchOp) :
    let n := (performAll perform s before).2.adapter.channels.length
    let opened := ((performAll perform s before).2.perform (.watch kind)).2
    let run := performAll perform s (before ++ .watch kind :: after)
    opened.incoming n after = WatchOp.sentTo n after ∧ (opened.inbox n).hungUp = false ∧ run.2.adapter.kind? n = some kind ∧
      (run.2.adapter.isAsked n = true ↔ .close ∈ after) ∧
      opened.Drains n kind after (WatchAnswer.handledBy n run.1) run.2 := by
  intro n opened run
  have hunopened : WatchAnswer.handledBy n (performAll perform s before).1 = [] :=
    handledBy_of_not_opened h (Adapter.kind?_length _)
  have hregistered : opened.adapter.Registered := registered_perform (registered_performAll h before) (.watch kind)
  have hkind : opened.adapter.kind? n = some kind := (Adapter.kind?_watch _ kind n).trans (if_pos rfl)
  have halive : opened.adapter.isAlive n = true := (Adapter.isAlive_watch _ kind n).trans (if_pos rfl)
  have hasked : opened.adapter.isAsked n = false := (Adapter.isAsked_watch _ kind n).trans (if_pos rfl)
  have hrun : run = ((performAll perform s before).1 ++
      ((performAll perform s before).2.perform (.watch kind)).1 :: (performAll perform opened after).1,
      (performAll perform opened after).2) := by
    unfold run
    rw [performAll_append, performAll_cons]
  have hhandled : WatchAnswer.handledBy n run.1 = WatchAnswer.handledBy n (performAll perform opened after).1 := by
    rw [hrun, WatchAnswer.handledBy, List.filterMap_append]
    exact (congrArg (· ++ _) hunopened).trans (List.nil_append _)
  have hlast : run.2 = (performAll perform opened after).2 := by rw [hrun]
  have hinbox : opened.inbox n = ⟨[], false⟩ := if_pos rfl
  rw [hhandled, hlast, incoming, hinbox, isAsked_performAll hregistered hkind, hasked]
  exact ⟨rfl, rfl, kind?_performAll hregistered hkind after, or_iff_right Bool.false_ne_true, drains hregistered hkind halive after⟩

/-- On one composer any number of channels and other watches are driven, hung up and closed in any order, and the composer may be closed.
What becomes of the composer is what the events handled make of it one after the other, each answered as the composer has it by then; on
a closed composer an event is suppressed, skipped or refused. A channel handles, as its own kind, a beginning of what is sent to it, in
order, and nothing after an event that is refused. While it lives it has handled all but what waits, nothing was refused, and its turn
handles the next event unless it takes up a request to end first; it was asked to end when the adapter was closed after it was opened. It
has ended only by a refusal, by the end of its sender when everything is handled, or after such a request, and handles nothing from
then on.

A closing closes each watch registered since the last one once, in order, whatever becomes of the others: a channel that lives is asked
to end without an error, one that has ended is reported, and so is a watch from outside that fails. No watch is left, the composer is as
before, and every channel has ended once it takes up the request, at the latest after as many turns as events wait for it and one more,
when nothing is sent to it anymore. -/
theorem run_handles_prefixes (composer : Composer) (selector : LabelSelector) (ops : List WatchOp) :
    let start : WatchSession := .new composer selector
    let run := performAll perform start ops
    (run.2.adapter.sync = run.1.foldl WatchAnswer.reaches start.adapter.sync ∧
      ∀ earlier n event answer later, run.1 = earlier ++ .handled n event answer :: later →
        let reached := earlier.foldl WatchAnswer.reaches start.adapter.sync
        answer = (reached.perform event).1 ∧
        (reached.composer.feed.closed = true →
          answer = .ok .suppressed ∨ answer = .ok .skipped ∨ answer = .error .closed)) ∧
    (∀ before kind after, ops = before ++ .watch kind :: after →
      let n := (performAll perform start before).2.adapter.channels.length
      let handled := WatchAnswer.handledBy n run.1
      let sent := WatchOp.sentTo n after
      run.2.adapter.kind? n = some kind ∧
      (∀ h ∈ handled, h.1.kind = kind) ∧
      handled.map (·.1.event) <+: sent ∧
      (handled.Pairwise fun earlier _ => earlier.2 ≠ .error .closed) ∧
      (run.2.adapter.isAsked n = true ↔ .close ∈ after) ∧
      (run.2.adapter.isAlive n = true →
        handled.map (·.1.event) ++ (run.2.inbox n).waiting = sent ∧ ∀ h ∈ handled, h.2 ≠ .error .closed) ∧
      (∀ heeds order event rest, run.2.adapter.isAlive n = true → (heeds = true → run.2.adapter.isAsked n = false) →
        (run.2.inbox n).waiting = event :: rest →
        ∃ answer, (run.2.perform (.turn n heeds order)).1 = .handled n ⟨kind, event, order⟩ answer) ∧
      (run.2.adapter.isAlive n = false →
        ((∃ h, handled.getLast? = some h ∧ h.2 = .error .closed) ∨ (.hangUp n ∈ after ∧ handled.map (·.1.event) = sent) ∨
          .close ∈ after) ∧
        ∀ more, WatchAnswer.handledBy n (performAll perform run.2 more).1 = [])) ∧
    let closed := run.2.perform .close
    closed.1 = .closed ((WatchAnswer.registeredSince run.1).map fun w => (w, run.2.adapter.failure? w)) ∧
      closed.2.adapter.watchCount = 0 ∧ closed.2.adapter.sync = run.2.adapter.sync ∧
      (∀ n, closed.2.adapter.isAlive n = run.2.adapter.isAlive n) ∧
      ∀ n more, (run.2.adapter.kind? n).isSome = true →
        ((∃ order, .turn n true order ∈ more) ∨
          ((∀ event, .send n event ∉ more) ∧ (run.2.inbox n).waiting.length < more.countP (WatchOp.isTurnOf n))) →
        (performAll perform closed.2 more).2.adapter.isAlive n = false := by
  intro start run
  have hstart : start.adapter.Registered := Adapter.registered_new composer selector
  have hrun : run.2.adapter.Registered := registered_performAll hstart ops
  obtain ⟨hsync, hwatches⟩ := performAll_tells hstart ops
  refine ⟨⟨hsync, fun earlier n event answer later hsplit => ?_⟩, fun before kind after hsplit => ?_, ?_⟩
  · intro reached
    have hanswer : answer = (reached.perform event).1 := answer_performAll hstart ops hsplit
    refine ⟨hanswer, fun hclosed => ?_⟩
    rcases reached.perform_cases event with ⟨hopen, -⟩ | ⟨-, hcases⟩
    · nomatch hopen.symm.trans hclosed
    · rwa [← hanswer] at hcases
  · subst hsplit
    intro n handled sent
    obtain ⟨hincoming, hsender, hkind, hasked, hkinds, horder, hrefused, hlives, hends⟩ := drains_watch hstart before kind after
    rw [hincoming] at horder hlives hends
    refine ⟨hkind, hkinds, horder, hrefused, hasked, hlives, fun heeds order event rest halive hheeds hwaiting => ?_,
      fun hended => ⟨?_, fun more => ?_⟩⟩
    · exact ⟨_, congrArg Prod.fst (turn_of_waiting hkind halive hheeds hwaiting order)⟩
    · exact (hends hended).imp_right
        (Or.imp (And.imp_left fun hgone => hgone.resolve_left (Bool.eq_false_iff.1 hsender)) hasked.1)
    · exact (ended_performAll hrun hkind hended more).2
  · obtain ⟨hlog, hsync', hwatches', hkinds, halive, hasked⟩ := hrun.close
    rw [hwatches] at hlog
    refine ⟨congrArg WatchAnswer.closed hlog, congrArg List.length hwatches', hsync', halive, fun n more hopened hmore => ?_⟩
    obtain ⟨kind, hkind⟩ := Option.isSome_iff_exists.1 hopened
    have hregistered := registered_perform hrun .close
    have hkind' := kind?_perform hrun hkind .close
    have hasked' := (isAsked_perform hrun hkind .close).2 (Or.inr rfl)
    rcases hmore with ⟨order, hheeds⟩ | ⟨hsend, hturns⟩
    · exact ends_of_heeded hregistered hkind' hasked' hheeds
    · exact ends_of_turns hregistered hkind' hasked' hsend hturns

/-- Two channels and two other watches on one composer. The first channel merges, goes on beside the closed composer while there is
nothing to do, and is ended by a deletion that is refused; the second one handles what waits after its sender is gone, and ends. A third
channel lives when the adapter is closed: it is asked to end, is sent an event and handles it all the same, and ends when it takes up the
request, with another event in its inbox. -/
theorem run_handles_prefixes_mixed :
    let labels : Properties := .ofList [("gateway.io/kind", "gateway-config"), ("gateway.io/tenant", "a")]
    let mapped : Resource := ⟨"u", "u", labels, .ofList [("client-id", "x")]⟩
    let plain (uid : String) : Resource := ⟨uid, uid, .empty, .empty⟩
    let after : List WatchOp := [.watch .secret, .register "p" .secret true, .register "q" .configMap false, .send 0 (.added mapped),
      .send 0 (.added (plain "v")), .send 1 (.added (plain "w")), .turn 0, .hangUp 1, .closeComposer, .turn 1, .turn 0, .turn 1,
      .send 0 (.deleted mapped false), .send 0 (.added (plain "z")), .turn 0, .turn 0, .send 0 (.added (plain "z")),
      .watch .configMap]
    let run := performAll perform (.new (.new 4) .default) (.watch .configMap :: after)
    let handled := WatchAnswer.handledBy 0 run.1
    let closed := run.2.perform .close
    let late : List WatchOp := [.send 2 (.added (plain "x")), .turn 2, .send 2 (.added (plain "y")), .turn 2 true]
    handled.map (·.1.event) = [.added mapped, .added (plain "v"), .deleted mapped false] ∧
      handled.map (·.1.event) <+: WatchOp.sentTo 0 after ∧
      run.2.adapter.isAlive 0 = false ∧
      (∀ more, WatchAnswer.handledBy 0 (performAll perform run.2 more).1 = []) ∧
      closed.1 = .closed ((WatchAnswer.registeredSince run.1).map fun w => (w, run.2.adapter.failure? w)) ∧
      (WatchAnswer.registeredSince run.1).map (fun w => (w, run.2.adapter.failure? w)) =
        [(.channel 0, some (.terminated .configMap)), (.channel 1, some (.terminated .secret)),
          (.external "p" .secret true, some (.terminated .secret)), (.external "q" .configMap false, none), (.channel 2, none)] ∧
      closed.2.adapter.isAlive 2 = true ∧
      (WatchAnswer.handledBy 2 (performAll perform closed.2 late).1).map (·.1.event) = [.added (plain "x")] ∧
      (performAll perform closed.2 late).2.adapter.isAlive 2 = false := by
  intro labels mapped plain after run handled closed late
  have hended : run.2.adapter.isAlive 0 = false := by decide +kernel
  obtain ⟨-, hchannels, hclosing⟩ := run_handles_prefixes (.new 4) .default (.watch .configMap :: after)
  obtain ⟨-, -, horder, -, -, -, -, hends⟩ := hchannels [] .configMap after rfl
  obtain ⟨hlog, -, -, -, hstops⟩ := hclosing
  refine ⟨by decide +kernel, ?_, hended, ?_, ?_, by decide +kernel, by decide +kernel, by decide +kernel, ?_⟩ <;>
    dsimp only [handled, closed, run] at hended ⊢
  · exact horder
  · exact (hends hended).2
  · exact hlog
  · exact hstops 2 late (by decide +kernel) (Or.inl ⟨[], by simp [late]⟩)

end WatchSession

end TenantGateway

import TenantGateway.Proofs.Feed.Closing
import TenantGateway.Proofs.Sync.Session

/-!
# Closing is terminal

A closed composer stays what it is, and refuses what would change it before anything is done. An event is answered as on the open
composer when it needs no call to the composer, and is refused otherwise (`Sync.attempt_of_closed`). A subscriber receives what
is left to it and nothing more (`SyncSession.repliesTo_of_closed`).
-/

namespace TenantGateway

/-- To reopen a composer that was closed gives back what it was. -/
theorem Composer.reopened_close {c : Composer} (h : c.feed.closed = false) : c.close.reopened = c := by
  obtain ⟨⟨capacity, entries, published, closed⟩, metrics⟩ := c
  obtain rfl : closed = false := h
  rfl

/-! ## Events about resources -/

namespace SyncOp

/-- Whether an event is the deletion of a resource whose labels name a tenant. -/
def IsNamedDeletion (s : LabelSelector) (op : SyncOp) : Prop :=
  ∃ r unknown, op.event = .deleted r unknown ∧ (s.identify r).isSome = true

end SyncOp

namespace Sync

variable {s : Sync}

/-! ### On an open composer -/

/-- On an open composer a merge succeeds. -/
theorem attemptMerge_of_open (h : s.composer.feed.closed = false) (f : Fragment) : (s.attemptMerge f).1 = .ok .merged := by
  rw [attemptMerge, Composer.merge_of_open h]
  rfl

/-- What follows a revoke from an open composer has an open composer too. -/
theorem calling_of_open {P : Except FeedError SyncOutcome → Prop} (h : s.composer.feed.closed = false) (t : TenantId) (id : String)
    {next : Bool → Sync → Except FeedError SyncOutcome × Sync}
    (hnext : ∀ any s', s'.composer.feed.closed = false → P (next any s').1) :
    P (s.calling (s.composer.revoke t id) next).1 := by
  obtain ⟨any, composer, hrevoke⟩ := Composer.exists_revoke h t id
  rw [hrevoke]
  exact hnext any (s.withComposer composer) (Composer.isOpen_after_revoke hrevoke)

/-- On an open composer a layer is revoked from all tenants listed. -/
theorem attemptRevokeAll_of_open (uid : String) (tenants : List TenantId) (h : s.composer.feed.closed = false) :
    (attemptRevokeAll uid tenants s).1 = .ok .revoked := by
  induction tenants generalizing s with
  | nil => rfl
  | cons t tenants ih => exact calling_of_open (P := (· = .ok .revoked)) h t uid fun _ _ hopen => ih hopen

/-- On an open composer a withdrawal revokes the layer, and is skipped when nobody has it. -/
theorem attemptWithdraw_of_open (h : s.composer.feed.closed = false) (kind : ResourceKind) (uid : String)
    (order : List TenantId) :
    (s.attemptWithdraw kind uid order).1 = .ok (if s.composer.owners uid order = [] then .skipped else .revoked) := by
  rw [attemptWithdraw]
  cases s.composer.owners uid order with
  | nil => rfl
  | cons t tenants => exact attemptRevokeAll_of_open uid (t :: tenants) h

/-- An open composer refuses no event. -/
theorem attempt_of_open (h : s.composer.feed.closed = false) (op : SyncOp) : ∃ outcome, (s.attempt op).1 = .ok outcome := by
  obtain ⟨kind, event, order⟩ := op
  cases event with
  | added r =>
    rw [attempt]
    dsimp only
    cases s.fragment? kind r with
    | none => exact ⟨.skipped, rfl⟩
    | some f => exact ⟨.merged, attemptMerge_of_open h f⟩
  | updated old new =>
    rw [attempt]
    dsimp only
    cases s.fragment? kind old with
    | none =>
      cases s.fragment? kind new with
      | none => exact ⟨.skipped, rfl⟩
      | some f => exact ⟨.merged, attemptMerge_of_open h f⟩
    | some previous =>
      cases s.fragment? kind new with
      | none => exact ⟨.revoked, calling_of_open (P := (· = .ok .revoked)) h _ _ fun _ _ _ => rfl⟩
      | some current =>
        rw [attemptUpdate]
        split
        · exact ⟨.suppressed, rfl⟩
        · split
          · exact ⟨.merged, attemptMerge_of_open h current⟩
          · exact ⟨.merged, calling_of_open (P := (· = .ok .merged)) h _ _ fun _ _ hopen => attemptMerge_of_open hopen current⟩
  | deleted r unknown =>
    rw [attempt]
    dsimp only
    rw [attemptDelete]
    split
    · exact ⟨_, attemptWithdraw_of_open h kind r.uid order⟩
    · refine calling_of_open (P := fun answer => ∃ outcome, answer = .ok outcome) h _ _ fun any s' hopen => ?_
      split
      · exact ⟨.revoked, rfl⟩
      · exact ⟨_, attemptWithdraw_of_open hopen kind r.uid order⟩

/-! ### On a closed composer -/

/-- What a closed composer answers to an event beside what an open one does: the same when there is nothing to do, and else that
it is closed. A deletion that names its tenant finds out that there is nothing to do by a call. -/
inductive AnsweredAs (named : Prop) : Except FeedError SyncOutcome → Except FeedError SyncOutcome → Prop
  | suppressed : AnsweredAs named (.ok .suppressed) (.ok .suppressed)
  | skipped : ¬named → AnsweredAs named (.ok .skipped) (.ok .skipped)
  | closed {opened : Except FeedError SyncOutcome} : opened ≠ .ok .suppressed → (opened = .ok .skipped → named) →
    AnsweredAs named (.error .closed) opened

namespace AnsweredAs

variable {named : Prop} {answer opened : Except FeedError SyncOutcome}

/-- An event is suppressed on a closed composer when it is on an open one. -/
theorem suppressed_iff (h : AnsweredAs named answer opened) : answer = .ok .suppressed ↔ opened = .ok .suppressed := by
  cases h with
  | suppressed => simp
  | skipped _ => simp
  | closed hopened _ => simp [hopened]

/-- An event is skipped on a closed composer when it is on an open one, unless it names a tenant. -/
theorem skipped_iff (h : AnsweredAs named answer opened) : answer = .ok .skipped ↔ opened = .ok .skipped ∧ ¬named := by
  cases h with
  | suppressed => simp
  | skipped hnamed => simp [hnamed]
  | closed _ hopened => simpa using hopened

/-- An event that is neither suppressed nor skipped on a closed composer is refused. -/
theorem eq_closed (h : AnsweredAs named answer opened) (hsuppressed : answer ≠ .ok .suppressed)
    (hskipped : answer ≠ .ok .skipped) : answer = .error .closed := by
  cases h with
  | suppressed => exact absurd rfl hsuppressed
  | skipped _ => exact absurd rfl hskipped
  | closed _ _ => rfl

end AnsweredAs

/-- After a call that is refused there are no further ones. -/
theorem calling_of_closed {β : Type} {call : Except FeedError (β × Composer)} (h : call = .error .closed)
    (next : β → Sync → Except FeedError SyncOutcome × Sync) : s.calling call next = (.error .closed, s) := by
  rw [h]
  rfl

/-- A merge and a revoke are refused by a closed composer; nothing is done then. -/
theorem attemptMerge_of_closed (h : s.composer.feed.closed = true) (f : Fragment) :
    s.attemptMerge f = (.error .closed, s) := by
  refine calling_of_closed ?_ _
  rw [Composer.merge_of_closed h]
  rfl

theorem callingRevoke_of_closed (h : s.composer.feed.closed = true) (t : TenantId) (id : String)
    (next : Bool → Sync → Except FeedError SyncOutcome × Sync) :
    s.calling (s.composer.revoke t id) next = (.error .closed, s) :=
  calling_of_closed (Composer.revoke_of_closed h t id) next

/-- Nothing but the closing tells the two composers apart. -/
theorem owners_reopened (s : Sync) (uid : String) (order : List TenantId) :
    s.reopened.composer.owners uid order = s.composer.owners uid order := rfl

theorem isOpen_reopened (s : Sync) : s.reopened.composer.feed.closed = false := rfl

/-- How an update is answered on a closed composer, beside an open one. -/
theorem answeredAs_update (h : s.composer.feed.closed = true) (kind : ResourceKind) (previous current : Option Fragment)
    {named : Prop} (hnamed : ¬named) :
    AnsweredAs named (s.attemptUpdate kind previous current).1 (s.reopened.attemptUpdate kind previous current).1 := by
  cases previous with
  | none =>
    cases current with
    | none => exact .skipped hnamed
    | some current =>
      rw [attemptUpdate, attemptUpdate, attemptMerge_of_closed h, attemptMerge_of_open s.isOpen_reopened]
      exact .closed (by simp) (by simp)
  | some previous =>
    cases current with
    | none =>
      rw [attemptUpdate, callingRevoke_of_closed h]
      have hopened : (s.reopened.attemptUpdate kind (some previous) none).1 = .ok .revoked :=
        calling_of_open (P := (· = .ok .revoked)) s.isOpen_reopened _ _ fun _ _ _ => rfl
      rw [hopened]
      exact .closed (by simp) (by simp)
    | some current =>
      by_cases hsame : previous = current
      · rw [attemptUpdate, attemptUpdate, if_pos hsame, if_pos hsame]
        exact .suppressed
      · have hclosed : s.attemptUpdate kind (some previous) (some current) = (.error .closed, s) := by
          rw [attemptUpdate, if_neg hsame, attemptMerge_of_closed h, callingRevoke_of_closed h, ite_self]
        have hopened : (s.reopened.attemptUpdate kind (some previous) (some current)).1 = .ok .merged := by
          rw [attemptUpdate, if_neg hsame]
          split
          · exact attemptMerge_of_open s.isOpen_reopened current
          · exact calling_of_open (P := (· = .ok .merged)) s.isOpen_reopened _ _ fun _ _ hopen =>
              attemptMerge_of_open hopen current
        rw [hclosed, hopened]
        exact .closed (by simp) (by simp)

/-- How a deletion is answered on a closed composer, beside an open one: it is refused when its labels name a tenant. -/
theorem answeredAs_delete (h : s.composer.feed.closed = true) (kind : ResourceKind) (r : Resource) (order : List TenantId) :
    AnsweredAs ((s.selector.identify r).isSome = true) (s.attemptDelete kind r order).1
      (s.reopened.attemptDelete kind r order).1 := by
  have hselector : s.reopened.selector = s.selector := rfl
  rw [attemptDelete, attemptDelete, hselector]
  cases s.selector.identify r with
  | none =>
    dsimp only
    rw [attemptWithdraw_of_open s.isOpen_reopened, owners_reopened, attemptWithdraw]
    cases s.composer.owners r.uid order with
    | nil => exact .skipped (by simp)
    | cons t tenants =>
      dsimp only
      rw [attemptRevokeAll, callingRevoke_of_closed h]
      exact .closed (by simp) (by simp)
  | some owner =>
    dsimp only
    rw [callingRevoke_of_closed h]
    refine .closed ?_ fun _ => rfl
    refine calling_of_open (P := (· ≠ .ok .suppressed)) s.isOpen_reopened _ _ fun any s' hopen => ?_
    cases any with
    | true => simp [settle]
    | false =>
      rw [if_neg (by simp), attemptWithdraw_of_open hopen]
      split <;> simp

/-- How a closed composer has an event answered. -/
theorem attempt_of_closed (h : s.composer.feed.closed = true) (op : SyncOp) :
    AnsweredAs (op.IsNamedDeletion s.selector) (s.attempt op).1 (s.reopened.attempt op).1 := by
  obtain ⟨kind, event, order⟩ := op
  have hfragment : ∀ r, s.reopened.fragment? kind r = s.fragment? kind r := fun r => rfl
  cases event with
  | added r =>
    have hnamed : ¬SyncOp.IsNamedDeletion s.selector ⟨kind, .added r, order⟩ := by simp [SyncOp.IsNamedDeletion]
    rw [attempt, attempt]
    dsimp only
    rw [hfragment]
    cases s.fragment? kind r with
    | none => exact .skipped hnamed
    | some f =>
      dsimp only
      rw [attemptMerge_of_closed h, attemptMerge_of_open s.isOpen_reopened]
      exact .closed (by simp) (by simp)
  | updated old new =>
    have hnamed : ¬SyncOp.IsNamedDeletion s.selector ⟨kind, .updated old new, order⟩ := by simp [SyncOp.IsNamedDeletion]
    exact answeredAs_update h kind (s.fragment? kind old) (s.fragment? kind new) hnamed
  | deleted r unknown =>
    have hnamed : SyncOp.IsNamedDeletion s.selector ⟨kind, .deleted r unknown, order⟩ ↔
        (s.selector.identify r).isSome = true := by
      constructor
      · rintro ⟨r', unknown', he, hr⟩
        obtain ⟨rfl, -⟩ := ResourceEvent.deleted.inj he
        exact hr
      · exact fun hr => ⟨r, unknown, rfl, hr⟩
    rw [propext hnamed]
    exact answeredAs_delete h kind r order

/-- An event is refused only because the composer is closed, and a closed composer has nothing done. -/
theorem perform_cases (s : Sync) (op : SyncOp) :
    (s.composer.feed.closed = false ∧ ∃ outcome, (s.perform op).1 = .ok outcome) ∨
      (s.composer.feed.closed = true ∧
        ((s.perform op).1 = .ok .suppressed ∨ (s.perform op).1 = .ok .skipped ∨ (s.perform op).1 = .error .closed)) := by
  rw [← attempt_eq_perform]
  cases hclosed : s.composer.feed.closed with
  | false => exact Or.inl ⟨rfl, attempt_of_open hclosed op⟩
  | true =>
    have hanswer := attempt_of_closed hclosed op
    by_cases hsuppressed : (s.attempt op).1 = .ok .suppressed
    · exact Or.inr ⟨rfl, Or.inl hsuppressed⟩
    · by_cases hskipped : (s.attempt op).1 = .ok .skipped
      · exact Or.inr ⟨rfl, Or.inr (Or.inl hskipped)⟩
      · exact Or.inr ⟨rfl, Or.inr (Or.inr (hanswer.eq_closed hsuppressed hskipped))⟩

/-- An event is refused for one reason only: the composer is closed. -/
theorem refused_eq_closed {op : SyncOp} {e : FeedError} (h : (s.perform op).1 = .error e) : e = .closed := by
  rcases s.perform_cases op with ⟨-, outcome, hok⟩ | ⟨-, hok | hok | hrefused⟩
  · cases h.symm.trans hok
  · cases h.symm.trans hok
  · cases h.symm.trans hok
  · exact Except.error.inj (h.symm.trans hrefused)

/-- A refused event changes nothing. -/
theorem attempt_of_refused {op : SyncOp} {e : FeedError} (h : (s.attempt op).1 = .error e) : (s.attempt op).2 = s := by
  rw [attempt_eq_perform, perform] at h ⊢
  cases hhandle : s.handle op.kind op.event op.order with
  | ok result =>
    rw [hhandle] at h
    cases h
  | error e' => rfl

/-! ### The selector -/

theorem selector_calling {β : Type} {call : Except FeedError (β × Composer)}
    {next : β → Sync → Except FeedError SyncOutcome × Sync} (h : ∀ b s', (next b s').2.selector = s'.selector) :
    (s.calling call next).2.selector = s.selector := by
  cases call with
  | ok result => exact h result.1 (s.withComposer result.2)
  | error e => rfl

theorem selector_attemptMerge (s : Sync) (f : Fragment) : (s.attemptMerge f).2.selector = s.selector :=
  selector_calling fun _ _ => rfl

theorem selector_attemptUpdate (s : Sync) (kind : ResourceKind) (previous current : Option Fragment) :
    (s.attemptUpdate kind previous current).2.selector = s.selector := by
  cases previous with
  | none =>
    cases current with
    | none => rfl
    | some current => exact s.selector_attemptMerge current
  | some previous =>
    cases current with
    | none => exact selector_calling fun _ _ => rfl
    | some current =>
      rw [attemptUpdate]
      split
      · rfl
      · split
        · exact s.selector_attemptMerge current
        · exact selector_calling fun _ s' => s'.selector_attemptMerge current

theorem selector_attemptRevokeAll (uid : String) (tenants : List TenantId) (s : Sync) :
    (attemptRevokeAll uid tenants s).2.selector = s.selector := by
  induction tenants generalizing s with
  | nil => rfl
  | cons t tenants ih => exact selector_calling fun _ s' => ih s'

theorem selector_attemptWithdraw (s : Sync) (kind : ResourceKind) (uid : String) (order : List TenantId) :
    (s.attemptWithdraw kind uid order).2.selector = s.selector := by
  rw [attemptWithdraw]
  split
  · rfl
  · exact selector_attemptRevokeAll uid _ s

/-- Handling an event leaves the selector alone. -/
theorem selector_attempt (s : Sync) (op : SyncOp) : (s.attempt op).2.selector = s.selector := by
  obtain ⟨kind, event, order⟩ := op
  cases event with
  | added r =>
    rw [attempt]
    dsimp only
    split
    · exact s.selector_attemptMerge _
    · rfl
  | updated old new => exact s.selector_attemptUpdate kind _ _
  | deleted r unknown =>
    rw [attempt]
    dsimp only
    rw [attemptDelete]
    split
    · exact s.selector_attemptWithdraw kind r.uid order
    · refine selector_calling fun any s' => ?_
      split
      · rfl
      · exact s'.selector_attemptWithdraw kind r.uid order

end Sync

namespace SyncSession

variable {σ : Type} [DecidableEq σ] {s : SyncSession σ} {name : σ}

/-! ## Operations on a closed composer -/

/-- Nothing changes a closed composer. -/
theorem composer_perform_of_closed (h : s.sync.composer.feed.closed = true) (op : SessionOp σ) :
    (s.perform op).2.sync.composer = s.sync.composer := by
  rcases s.writes_perform op with ⟨hwrites, -⟩ | ⟨hclose, -⟩
  · exact hwrites.eq_of_closed h
  · exact hclose.trans (Composer.close_of_closed h)

/-- A closed composer stays as it is in every run. -/
theorem composer_performAll_of_closed (h : s.sync.composer.feed.closed = true) (ops : List (SessionOp σ)) :
    (performAll perform s ops).2.sync.composer = s.sync.composer := by
  induction ops generalizing s with
  | nil => rfl
  | cons op ops ih =>
    have hfirst := composer_perform_of_closed h op
    have hclosed : (s.perform op).2.sync.composer.feed.closed = true := hfirst ▸ h
    exact (ih hclosed).trans hfirst

/-- A closed composer refuses to merge and to revoke. -/
theorem perform_merge_of_closed (h : s.sync.composer.feed.closed = true) (f : Fragment) :
    s.perform (.write (.merge f)) = (.written (.refused .closed), s) := by
  rw [perform, Composer.perform, Composer.merge_of_closed h]
  rfl

/-- A revoke on a closed composer is refused and changes nothing. -/
theorem perform_revoke_of_closed (h : s.sync.composer.feed.closed = true) (t : TenantId) (id : String) :
    s.perform (.write (.revoke t id)) = (.written (.refused .closed), s) := by
  rw [perform, Composer.perform, Composer.revoke_of_closed h]
  rfl

/-- No operation changes which labels mark configuration. -/
theorem selector_perform (s : SyncSession σ) (op : SessionOp σ) : (s.perform op).2.sync.selector = s.sync.selector := by
  cases op with
  | event op => exact Sync.selector_attempt s.sync op
  | _ => rfl

/-- No run changes which resources are selected. -/
theorem selector_performAll (s : SyncSession σ) (ops : List (SessionOp σ)) :
    (performAll perform s ops).2.sync.selector = s.sync.selector := by
  induction ops generalizing s with
  | nil => rfl
  | cons op ops ih => exact (ih (s.perform op).2).trans (s.selector_perform op)

/-! ## Subscribers of a closed composer -/

/-- An operation by which a subscriber neither begins nor receives leaves it alone. -/
theorem subscriber_perform (s : SyncSession σ) {op : SessionOp σ} (hop : op.resets name = false)
    (hreceives : op.receives name = false) :
    Entries.get? (s.perform op).2.subscribers name = Entries.get? s.subscribers name ∧
      op.replyTo? name (s.perform op).1 = none := by
  cases op with
  | write op => exact ⟨rfl, rfl⟩
  | event op => exact ⟨rfl, rfl⟩
  | observe n order =>
    have hn : n ≠ name := of_decide_eq_false hop
    exact ⟨(Entries.get?_put _ _ _ _).trans (if_neg hn), rfl⟩
  | receive n =>
    have hn : n ≠ name := of_decide_eq_false hreceives
    have haside : (FeedOp.receive n : FeedOp σ TenantId Configuration).isAside name = true := decide_eq_true hn
    obtain ⟨-, hsub, hreplies⟩ := FeedSession.perform_of_isAside s.readers haside
    rw [← toList_replyTo?_receive] at hreplies
    exact ⟨hsub, Option.toList_eq_nil_iff.1 hreplies⟩

/-- What a subscriber receives next. -/
theorem perform_receive {sub : Subscription TenantId Configuration} (h : Entries.get? s.subscribers name = some sub) :
    s.perform (.receive name) = (.read (.received (sub.receive s.sync.composer.feed).1),
      { s with subscribers := Entries.put s.subscribers name (sub.receive s.sync.composer.feed).2 }) := by
  have hreaders : Entries.get? s.readers.subscribers name = some sub := h
  rw [perform, read, FeedSession.perform_receive hreaders]
  rfl

/-- Once the composer is closed, a subscriber receives what is left to it, and then the news that there is nothing more. -/
theorem repliesTo_of_closed (h : s.sync.composer.feed.closed = true) {sub : Subscription TenantId Configuration}
    (hsub : Entries.get? s.subscribers name = some sub) {ops : List (SessionOp σ)}
    (hops : ∀ op ∈ ops, op.resets name = false) :
    let left := sub.ending s.sync.composer.feed
    let n := ops.countP (·.receives name)
    repliesTo name ops (performAll perform s ops).1 = left.take n ++ List.replicate (n - left.length) .finished := by
  induction ops generalizing s sub with
  | nil => simp [repliesTo]
  | cons op ops ih =>
    intro left n
    have hfeed := composer_perform_of_closed h op
    have hclosed : (s.perform op).2.sync.composer.feed.closed = true := hfeed ▸ h
    have hrest : ∀ op' ∈ ops, op'.resets name = false := fun op' hop => hops op' (List.mem_cons_of_mem op hop)
    rw [performAll_cons, repliesTo_cons]
    cases hreceives : op.receives name with
    | false =>
      obtain ⟨hsame, hnone⟩ := s.subscriber_perform (hops op List.mem_cons_self) hreceives
      have hn : n = ops.countP (·.receives name) := List.countP_cons_of_neg (by simp [hreceives])
      rw [hnone, ih hclosed (hsame.trans hsub) hrest, hfeed, hn]
      rfl
    | true =>
      obtain rfl : op = .receive name := by
        cases op with
        | receive m => exact congrArg _ (of_decide_eq_true hreceives)
        | _ => exact absurd hreceives Bool.false_ne_true
      obtain ⟨hreply, hleft⟩ := Subscription.receive_of_closed h sub
      have hn : n = ops.countP (·.receives name) + 1 := List.countP_cons_of_pos hreceives
      have hnext : Entries.get? (s.perform (.receive name)).2.subscribers name =
          some (sub.receive s.sync.composer.feed).2 := by
        rw [perform_receive hsub]
        exact (Entries.get?_put _ _ _ _).trans (if_pos rfl)
      have htold : (SessionOp.receive name).replyTo? name (s.perform (.receive name)).1 = some (left.headD .finished) := by
        rw [perform_receive hsub, hreply]
        exact if_pos rfl
      rw [htold, ih hclosed hnext hrest, hfeed, hleft, hn]
      cases hl : left with
      | nil => simp [left, hl, List.replicate_succ]
      | cons reply later => simp [left, hl]

/-! ## What is left of a closed composer -/

/-- After it was closed, a composer is what it was: whatever operations follow, the configurations, the tenants, the owners of
every fragment, what was published and the counts stay, and merging and revoking are refused. An event about a resource is
suppressed when it would be with the composer open, and skipped when it would be, except that a deletion is refused if the labels
of the resource name a tenant; every other event is refused, and does nothing. A subscriber that began before receives the rest of
its snapshot and then what was published and not received, or the lag when this is more than is kept, and then that there is
nothing more. One that begins afterwards receives the configurations, each once, and then that there is nothing more. -/
theorem run_after_close (capacity : Nat) (selector : LabelSelector) (before after : List (SessionOp σ)) :
    let s₀ := (performAll perform (new capacity selector) before).2
    let c₀ := s₀.sync.composer
    let run := performAll perform (s₀.perform (.write .close)).2 after
    let s := run.2
    let c := s.sync.composer
    ((∀ t, c.configuration? t = c₀.configuration? t) ∧ c.tenants = c₀.tenants ∧
      (∀ id order, c.owners id order = c₀.owners id order) ∧ c.feed.published = c₀.feed.published ∧ c.metrics = c₀.metrics) ∧
    ((∀ f, s.perform (.write (.merge f)) = (.written (.refused .closed), s)) ∧
      ∀ t id, s.perform (.write (.revoke t id)) = (.written (.refused .closed), s)) ∧
    (c₀.feed.closed = false → c.reopened = c₀) ∧
    (∀ op : SyncOp,
      let answer := (s.sync.attempt op).1
      let opened := (s.sync.reopened.attempt op).1
      (s.perform (.event op)).1 = .handled answer ∧
      (answer = .ok .suppressed ↔ opened = .ok .suppressed) ∧
      (answer = .ok .skipped ↔ opened = .ok .skipped ∧ ¬op.IsNamedDeletion selector) ∧
      (answer ≠ .ok .suppressed → answer ≠ .ok .skipped → answer = .error .closed ∧ (s.perform (.event op)).2 = s)) ∧
    (∀ earlier name order between, before = earlier ++ .observe name order :: between →
      (∀ op ∈ between ++ after, op.resets name = false) →
      let s₁ := (performAll perform (new capacity selector) earlier).2
      let told := repliesTo name (.observe name order :: between) (performAll perform s₁ (.observe name order :: between)).1
      let got := (Reply.events told).length
      let snapshot := Entries.arrange order s₁.sync.composer.feed.entries.entries
      let backlog := (c₀.feed.published.drop s₁.sync.composer.feed.published.length).drop (got - snapshot.length)
      let left := if told.any Reply.isLag then [] else
        (snapshot.drop got).map (fun e => .event (.put e.1 e.2)) ++
          if c₀.feed.slots < backlog.length then [.lagged (backlog.length - c₀.feed.slots)] else backlog.map .event
      let n := after.countP (·.receives name)
      repliesTo name after run.1 = left.take n ++ List.replicate (n - left.length) .finished) ∧
    ∀ name order rest, (∀ op ∈ rest, op.resets name = false) →
      let entries := Entries.arrange order c₀.feed.entries.entries
      let left := entries.map fun e => .event (.put e.1 e.2)
      let n := rest.countP (·.receives name)
      entries.Perm c₀.feed.entries.entries ∧
      repliesTo name (.observe name order :: rest) (performAll perform s (.observe name order :: rest)).1 =
        left.take n ++ List.replicate (n - left.length) .finished := by
  intro s₀ c₀ run s c
  have hclose : (s₀.perform (.write .close)).2.sync.composer.feed.closed = true := rfl
  have hc : c = c₀.close := composer_performAll_of_closed hclose after
  have hclosed : s.sync.composer.feed.closed = true := by
    rw [show s.sync.composer = c₀.close from hc]
    rfl
  have hselector : s.sync.selector = selector :=
    (selector_performAll _ after).trans (selector_performAll (new capacity selector) before)
  refine ⟨?_, ⟨perform_merge_of_closed hclosed, perform_revoke_of_closed hclosed⟩, fun hopen => ?_, fun op => ?_,
    fun earlier name order between hbefore hops => ?_, fun name order rest hrest => ?_⟩
  · rw [hc]
    exact ⟨fun _ => rfl, rfl, fun _ _ => rfl, rfl, rfl⟩
  · rw [hc]
    exact Composer.reopened_close hopen
  · intro answer opened
    have hanswered : Sync.AnsweredAs (op.IsNamedDeletion selector) answer opened := hselector ▸ Sync.attempt_of_closed hclosed op
    refine ⟨rfl, hanswered.suppressed_iff, hanswered.skipped_iff, fun hsuppressed hskipped => ?_⟩
    have hrefused : answer = .error .closed := hanswered.eq_closed hsuppressed hskipped
    refine ⟨hrefused, ?_⟩
    rw [perform, Sync.attempt_of_refused hrefused]
  · intro s₁ told got snapshot backlog left n
    have hs₀ : s₀ = (performAll perform s₁ (.observe name order :: between)).2 := by
      rw [← congrArg Prod.snd (performAll_append perform _ earlier _), ← hbefore]
    have hserves : s₀.readers.Serves name snapshot s₁.sync.composer.feed.published.length told :=
      hs₀ ▸ serves_performAll (s₁.serves_observe name order) fun op hop => hops op (List.mem_append_left after hop)
    obtain ⟨sub, hsub, hfollows⟩ := hserves
    have hleft : sub.ending c₀.feed = left := hfollows.ending
    have hreplies := repliesTo_of_closed hclose (s := (s₀.perform (.write .close)).2) hsub
      fun op hop => hops op (List.mem_append_right between hop)
    rw [← hleft]
    exact hreplies
  · intro entries left n
    have hsub : Entries.get? (s.perform (.observe name order)).2.subscribers name = some (c.observe order) :=
      (Entries.get?_put _ _ _ _).trans (if_pos rfl)
    have hleft : (c.observe order).ending (s.perform (.observe name order)).2.sync.composer.feed = left :=
      (Subscription.ending_observe hclosed order).trans (by rw [show s.sync.composer = c₀.close from hc]; rfl)
    have hreplies := repliesTo_of_closed (s := (s.perform (.observe name order)).2) hclosed hsub hrest
    rw [hleft] at hreplies
    exact ⟨Entries.arrange_perm order c₀.feed.entries.distinct, hreplies⟩

/-- With one event kept, a subscriber that left two unread receives its snapshot and is told that it lags. The deletion of a
resource that labels its tenant and has no layer would be skipped, and is refused. -/
theorem run_after_close_lagged :
    let a : TenantId := ⟨"a", by decide⟩
    let selector : LabelSelector := ⟨"tenant", "kind", "config"⟩
    let earlier : List (SessionOp Nat) := [.write (.merge ⟨"f", a, .empty⟩)]
    let between : List (SessionOp Nat) := [.write (.merge ⟨"g", a, .empty⟩), .write (.revoke a "f")]
    let after : List (SessionOp Nat) := [.receive 0, .write (.revoke a "g"), .receive 0, .receive 0]
    let s₀ := (performAll perform (new 1 selector) (earlier ++ .observe 0 :: between)).2
    let run := performAll perform (s₀.perform (.write .close)).2 after
    let r : Resource := ⟨"u", "r", .ofList [("kind", "config"), ("tenant", "a")], .empty⟩
    let deletion : SyncOp := ⟨.configMap, .deleted r false, []⟩
    (∀ op ∈ between ++ after, op.resets 0 = false) ∧
      repliesTo 0 after run.1 = [.event (.put a ⟨[("f", .empty)]⟩), .lagged 1, .finished] ∧
      (run.2.sync.reopened.attempt deletion).1 = .ok .skipped ∧ (run.2.perform (.event deletion)).1 = .handled (.error .closed) := by
  intro a selector earlier between after s₀ run r deletion
  have hops : ∀ op ∈ between ++ after, op.resets 0 = false := by decide
  obtain ⟨-, -, -, hevents, hbegan, -⟩ := run_after_close 1 selector (earlier ++ .observe 0 :: between) after
  obtain ⟨hanswer, hsuppressed, hskipped, hrefused⟩ := hevents deletion
  have hopened : (run.2.sync.reopened.attempt deletion).1 = .ok .skipped := by decide
  have hnamed : deletion.IsNamedDeletion selector := ⟨r, false, rfl, by decide⟩
  refine ⟨hops, (hbegan earlier 0 [] between rfl hops).trans (by decide), hopened, ?_⟩
  have hclosed := hrefused (fun h => nomatch hopened.symm.trans (hsuppressed.1 h)) fun h => (hskipped.1 h).2 hnamed
  rw [hanswer, hclosed.1]

end SyncSession

end TenantGateway

import TenantGateway.Proofs.Composer.Whole
import TenantGateway.Proofs.Feed.Delivery
import TenantGateway.Proofs.Sync.Attempt
import TenantGateway.Sync.Session

/-!
# What subscribers see of a composer

An operation of a session merges, revokes, closes the composer or leaves it alone (`SyncSession.writes_perform`), and every
subscriber follows what comes of it (`SyncSession.serves_performAll`). So subscribers see whole configurations only
(`SyncSession.run_publishes_whole`).
-/

namespace TenantGateway

namespace SyncSession

variable {σ : Type} [DecidableEq σ]

/-! ## The composer -/

/-- An operation merges and revokes, or closes the composer. -/
theorem writes_perform (s : SyncSession σ) (op : SessionOp σ) :
    s.sync.composer.Writes (s.perform op).2.sync.composer ∧ op ≠ .write .close ∨
      (s.perform op).2.sync.composer = s.sync.composer.close ∧ op = .write .close := by
  cases op with
  | write op =>
    cases op with
    | merge fragment =>
      refine Or.inl ⟨?_, by simp⟩
      rw [perform, Composer.perform]
      cases hmerge : s.sync.composer.merge fragment with
      | ok composer => exact .merge .refl hmerge
      | error e => exact .refl
    | revoke t id =>
      refine Or.inl ⟨?_, by simp⟩
      rw [perform, Composer.perform]
      cases hrevoke : s.sync.composer.revoke t id with
      | ok result => exact .revoke .refl hrevoke
      | error e => exact .refl
    | close => exact Or.inr ⟨rfl, rfl⟩
  | event op =>
    refine Or.inl ⟨?_, by simp⟩
    rw [perform, Sync.attempt_eq_perform, Sync.perform]
    cases hhandle : s.sync.handle op.kind op.event op.order with
    | ok result => exact Sync.writes_handle hhandle
    | error e => exact .refl
  | observe name order => exact Or.inl ⟨.refl, by simp⟩
  | receive name => exact Or.inl ⟨.refl, by simp⟩

/-- Every operation publishes whole configurations. -/
theorem wholeTo_perform (s : SyncSession σ) (op : SessionOp σ) :
    s.sync.composer.WholeTo (s.perform op).2.sync.composer := by
  rcases s.writes_perform op with ⟨hwrites, -⟩ | ⟨hclose, -⟩
  · exact hwrites.wholeTo
  · rw [hclose]
    exact Composer.wholeTo_close _

/-- Every operation only adds to what is published. -/
theorem growsTo_perform (s : SyncSession σ) (op : SessionOp σ) :
    s.sync.composer.feed.GrowsTo (s.perform op).2.sync.composer.feed := by
  rcases s.writes_perform op with ⟨hwrites, -⟩ | ⟨hclose, -⟩
  · exact hwrites.growsTo
  · rw [hclose]
    exact ⟨[], Feed.growsBy_close _⟩

/-- A run leads from whole configurations to whole configurations. -/
theorem wholeTo_performAll (s : SyncSession σ) (ops : List (SessionOp σ)) :
    s.sync.composer.WholeTo (performAll perform s ops).2.sync.composer := by
  induction ops generalizing s with
  | nil => exact .refl _
  | cons op ops ih => exact (s.wholeTo_perform op).trans (ih (s.perform op).2)

/-- A composer is closed after a run when it was before or when the run closes it. -/
theorem closed_performAll (s : SyncSession σ) (ops : List (SessionOp σ)) :
    (performAll perform s ops).2.sync.composer.feed.closed = true ↔
      s.sync.composer.feed.closed = true ∨ .write .close ∈ ops := by
  induction ops generalizing s with
  | nil => simp
  | cons op ops ih =>
    rw [performAll_cons, ih (s.perform op).2, List.mem_cons]
    rcases s.writes_perform op with ⟨hwrites, hop⟩ | ⟨hclose, rfl⟩
    · rw [hwrites.closed, or_iff_right (Ne.symm hop)]
    · rw [hclose]
      exact ⟨fun _ => Or.inr (Or.inl rfl), fun _ => Or.inl rfl⟩

/-! ## Subscribers -/

variable {name : σ} {s : SyncSession σ} {snapshot : List (TenantId × Configuration)} {base : Nat}
  {told : List (Reply TenantId Configuration)}

/-- The replies to a run are the one to its first operation, if there is one, and those to the others. -/
theorem repliesTo_cons (op : SessionOp σ) (ops : List (SessionOp σ)) (answer : SessionAnswer)
    (answers : List SessionAnswer) :
    repliesTo name (op :: ops) (answer :: answers) = (op.replyTo? name answer).toList ++ repliesTo name ops answers := by
  rw [repliesTo, List.zip_cons_cons, List.filterMap_cons]
  cases op.replyTo? name answer <;> rfl

/-- Receiving leaves the feed alone, and does to the subscribers what it does to those of a feed. -/
theorem readers_receive (s : SyncSession σ) (n : σ) :
    (s.perform (.receive n)).2.readers = (s.readers.perform (.receive n)).2 := by
  rw [perform, read, FeedSession.perform]
  cases hsub : Entries.get? s.readers.subscribers n <;> rfl

theorem toList_replyTo?_receive (name n : σ) (answer : FeedAnswer TenantId Configuration) :
    ((SessionOp.receive n).replyTo? name (.read answer)).toList = FeedSession.repliesTo name [.receive n] [answer] := by
  cases answer with
  | received reply => by_cases hn : n = name <;> simp [SessionOp.replyTo?, FeedSession.repliesTo, hn]
  | _ => rfl

/-- A new subscriber follows the feed. -/
theorem serves_observe (s : SyncSession σ) (name : σ) (order : List TenantId) :
    (s.perform (.observe name order)).2.readers.Serves name (Entries.arrange order s.sync.composer.feed.entries.entries)
      s.sync.composer.feed.published.length [] :=
  FeedSession.serves_observe s.readers name order

/-- A subscriber follows the feed through every operation that does not begin its subscription anew. -/
theorem serves_perform (h : s.readers.Serves name snapshot base told) {op : SessionOp σ} (hop : op.resets name = false) :
    (s.perform op).2.readers.Serves name snapshot base (told ++ (op.replyTo? name (s.perform op).1).toList) := by
  cases op with
  | write op =>
    obtain ⟨sub, hsub, hfollows⟩ := h
    obtain ⟨since, hgrows⟩ := s.growsTo_perform (.write op)
    exact ⟨sub, hsub, (List.append_nil told).symm ▸ hfollows.grow hgrows⟩
  | event op =>
    obtain ⟨sub, hsub, hfollows⟩ := h
    obtain ⟨since, hgrows⟩ := s.growsTo_perform (.event op)
    exact ⟨sub, hsub, (List.append_nil told).symm ▸ hfollows.grow hgrows⟩
  | observe n order =>
    have hfeed : (FeedOp.observe n order : FeedOp σ TenantId Configuration).resets name = false := hop
    exact h.step hfeed
  | receive n =>
    have hfeed : (FeedOp.receive n : FeedOp σ TenantId Configuration).resets name = false := rfl
    have hstep := h.step hfeed
    rw [← toList_replyTo?_receive] at hstep
    rw [readers_receive]
    exact hstep

/-- A subscriber follows the feed through every run that does not begin its subscription anew. -/
theorem serves_performAll (h : s.readers.Serves name snapshot base told) {ops : List (SessionOp σ)}
    (hops : ∀ op ∈ ops, op.resets name = false) :
    (performAll perform s ops).2.readers.Serves name snapshot base
      (told ++ repliesTo name ops (performAll perform s ops).1) := by
  induction ops generalizing s told with
  | nil => exact (List.append_nil told).symm ▸ h
  | cons op ops ih =>
    have hrun := ih (serves_perform h (hops op List.mem_cons_self)) fun op' hop => hops op' (List.mem_cons_of_mem op hop)
    rw [performAll_cons, repliesTo_cons, ← List.append_assoc]
    exact hrun

/-! ## Whole configurations -/

/-- A removal in a stream that begins with puts stands behind them. -/
theorem split_of_puts {since earlier rest : List (Change TenantId Configuration)} {t : TenantId} {configuration : Configuration}
    (h : snapshot.map (fun e => Change.put e.1 e.2) ++ since = earlier ++ .remove t configuration :: rest) :
    ∃ gap, since = gap ++ .remove t configuration :: rest := by
  rcases List.append_eq_append_iff.1 h with ⟨gap, -, hsince⟩ | ⟨gap, hputs, hrest⟩
  · exact ⟨gap, hsince⟩
  · cases gap with
    | nil => exact ⟨[], hrest.symm⟩
    | cons change gap =>
      obtain ⟨rfl, -⟩ := List.cons.inj hrest
      have hmem : Change.remove t configuration ∈ snapshot.map (fun e => Change.put e.1 e.2) := by simp [hputs]
      simp at hmem

/-- However calls, events and reads are interleaved: until it is closed, a composer publishes for every merge one put of the
configuration that comes of it, for every revoke that takes a layer one put of the layers that are left, or the removal of the
configuration whose one layer was taken, and nothing for a revoke that takes none. What a subscriber receives is the beginning of
a stream without gaps, in which every put shows layers of different fragments, one at least, every removal shows one layer, and
the next change about a tenant after a removal is a put of one layer. Nothing is ever cleared. -/
theorem run_publishes_whole (capacity : Nat) (selector : LabelSelector) (before after : List (SessionOp σ)) (name : σ)
    (order : List TenantId) (hafter : ∀ op ∈ after, op.resets name = false) :
    let s₀ := (performAll perform (new capacity selector) before).2
    let run := performAll perform s₀ (.observe name order :: after)
    let c := run.2.sync.composer
    let got := Reply.events (repliesTo name (.observe name order :: after) run.1)
    let snapshot := Entries.arrange order s₀.sync.composer.feed.entries.entries
    let stream := snapshot.map (fun e => Change.put e.1 e.2) ++
      c.feed.published.drop s₀.sync.composer.feed.published.length
    (c.feed.closed = true ↔ .write .close ∈ before ∨ .write .close ∈ after) ∧
    (c.feed.closed = false →
      (∀ f, ∃ c' configuration, c.merge f = .ok c' ∧
        configuration.layers = Entries.file (c.layersOf f.tenant) f.id f.properties ∧
        c'.configuration? f.tenant = some configuration ∧
        c'.feed.published = c.feed.published ++ [.put f.tenant configuration]) ∧
      ∀ t id, ∃ any c', c.revoke t id = .ok (any, c') ∧ (any = false → c' = c) ∧
        (any = true → ∃ configuration, c.configuration? t = some configuration ∧
          ((∃ rest, rest.layers = Entries.erase configuration.layers id ∧ rest.layers ≠ [] ∧ c'.configuration? t = some rest ∧
              c'.feed.published = c.feed.published ++ [.put t rest]) ∨
            (configuration.fragmentIds = [id] ∧ c'.configuration? t = none ∧
              c'.feed.published = c.feed.published ++ [.remove t configuration])))) ∧
    .clear ∉ c.feed.published ∧
    got <+: stream ∧
    (∀ t configuration, .put t configuration ∈ stream → configuration.layers ≠ [] ∧ configuration.fragmentIds.Nodup) ∧
    (∀ t configuration, .remove t configuration ∈ stream → configuration.size = 1) ∧
    ∀ t configuration earlier between next later,
      stream = earlier ++ .remove t configuration :: (between ++ next :: later) →
      (∀ change ∈ between, change.key? ≠ some t) → next.key? = some t → ∃ fresh, next = .put t fresh ∧ fresh.size = 1 := by
  intro s₀ run c got snapshot stream
  have hnew : (new capacity selector : SyncSession σ).sync.composer.IsWhole := Composer.isWhole_new capacity
  obtain ⟨hwhole₀, -⟩ := wholeTo_performAll (new capacity selector) before hnew
  obtain ⟨hwhole, since, hgrows, hsince⟩ := wholeTo_performAll s₀ (.observe name order :: after) hwhole₀
  have hstream : stream = snapshot.map (fun e => Change.put e.1 e.2) ++ since :=
    congrArg _ (by rw [hgrows.published, List.drop_left])
  have hput : ∀ t configuration, .put t configuration ∈ stream → configuration.IsWhole := by
    intro t configuration hmem
    rw [hstream] at hmem
    rcases List.mem_append.1 hmem with hmem | hmem
    · obtain ⟨e, he, hchange⟩ := List.mem_map.1 hmem
      obtain ⟨rfl, rfl⟩ := Change.put.inj hchange
      have hentry := (Entries.arrange_perm order s₀.sync.composer.feed.entries.distinct).mem_iff.1 he
      exact hwhole₀ e.1 e.2 (s₀.sync.composer.feed.entries.mem_entries.1 hentry)
    · obtain ⟨d, hshows, -⟩ := hsince.showsWhole hmem
      exact hshows
  refine ⟨?_, fun hopen => ⟨Composer.merge_publishes hopen, Composer.revoke_publishes hwhole hopen⟩, fun hmem => ?_, ?_,
    fun t configuration hmem => ⟨(hput t configuration hmem).layers_ne_nil, (hput t configuration hmem).distinct⟩,
    fun t configuration hmem => ?_, fun t configuration earlier between next later hsplit haside hnext => ?_⟩
  · rw [closed_performAll, closed_performAll, List.mem_cons]
    simp [new, Sync.new, Composer.new, Feed.new]
  · obtain ⟨-, all, hall, hshows⟩ := (wholeTo_performAll (new capacity selector) before).trans
      (wholeTo_performAll s₀ (.observe name order :: after)) hnew
    have hpublished : c.feed.published = all := hall.published
    obtain ⟨d, hfalse⟩ := hshows.showsWhole (hpublished ▸ hmem)
    exact hfalse
  · have hserves : run.2.readers.Serves name snapshot s₀.sync.composer.feed.published.length
        (repliesTo name (.observe name order :: after) run.1) :=
      serves_performAll (s₀.serves_observe name order) hafter
    obtain ⟨sub, -, hfollows⟩ := hserves
    rw [show got = stream.take got.length from hfollows.received]
    exact List.take_prefix _ _
  · rw [hstream] at hmem
    obtain ⟨earlier, later, hsplit⟩ := List.append_of_mem hmem
    obtain ⟨gap, rfl⟩ := split_of_puts hsplit
    exact hsince.of_split.2
  · obtain ⟨gap, hgap⟩ := split_of_puts (hstream ▸ hsplit)
    exact Change.put_of_removed hsince hgap haside hnext

/-- A tenant whose only layer was revoked starts over with one layer. -/
theorem run_publishes_whole_again :
    let a : TenantId := ⟨"a", by decide⟩
    let selector : LabelSelector := ⟨"tenant", "kind", "config"⟩
    let before : List (SessionOp Nat) := [.write (.merge ⟨"f", a, .empty⟩)]
    let after : List (SessionOp Nat) :=
      [.write (.revoke a "f"), .write (.merge ⟨"g", a, .empty⟩), .receive 0, .receive 0, .receive 0]
    let s₀ := (performAll perform (new 4 selector) before).2
    let told := repliesTo 0 (.observe 0 :: after) (performAll perform s₀ (.observe 0 :: after)).1
    (∀ op ∈ after, op.resets 0 = false) ∧
      ∃ gone fresh, Reply.events told = [.put a gone, .remove a gone, .put a fresh] ∧ fresh.size = 1 := by
  intro a selector before after s₀ told
  have hafter : ∀ op ∈ after, op.resets 0 = false := by decide
  let gone : Configuration := ⟨[("f", .empty)]⟩
  let next : Change TenantId Configuration := .put a ⟨[("g", .empty)]⟩
  obtain ⟨-, -, -, -, -, -, hagain⟩ := run_publishes_whole 4 selector before after 0 [] hafter
  obtain ⟨fresh, hfresh, hsize⟩ := hagain a gone [.put a gone] [] next [] (by decide) (by simp) rfl
  have htold : Reply.events told = [.put a gone, .remove a gone, next] := by decide
  exact ⟨hafter, gone, fresh, hfresh ▸ htold, hsize⟩

end SyncSession

end TenantGateway

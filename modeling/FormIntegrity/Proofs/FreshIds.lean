import FormIntegrity.Proofs.MemoryTokens
import Mathlib.Algebra.Group.Nat.Defs

/-!
# Page ids are handed out once

Every page of every session takes its id from the guard's one counter, which starts at 1 and counts
up. While fewer than `2 ^ 64` pages have been started the counter has not wrapped, so no two pages
share an id: the pages being drafted have distinct ids, none of them the id of a page already
stored, and no id is stored twice. The invariant (`Fresh`) bounds every id in use by the number of
pages started, and says the counter is one past it.
-/

namespace FormIntegrity

namespace Event

/-- Whether an event is a page start. -/
def startsPage : Event → Bool
  | .composer _ _ (.pageStarted _) => true
  | _ => false

/-- The id of the page an event stores, if it stores one. -/
def storedId? : Event → Option UInt64
  | .composer _ _ (.stored p) => some p.id
  | _ => none

end Event

namespace Deployment

/-- The number of pages started in a trace. -/
def started (trace : List Event) : Nat :=
  trace.countP Event.startsPage

/-- The ids of the pages stored in a trace, in the order they were stored. -/
def storedIds (trace : List Event) : List UInt64 :=
  trace.filterMap Event.storedId?

@[simp] theorem started_nil : started [] = 0 := rfl

@[simp] theorem storedIds_nil : storedIds [] = [] := rfl

@[simp] theorem started_append (trace more : List Event) :
    started (trace ++ more) = started trace + started more := by
  simp [started, List.countP_append]

@[simp] theorem storedIds_append (trace more : List Event) :
    storedIds (trace ++ more) = storedIds trace ++ storedIds more := by
  simp [storedIds, List.filterMap_append]

theorem mem_storedIds {trace : List Event} {id : UInt64} :
    id ∈ storedIds trace ↔ ∃ handle owner p, Event.composer handle owner (.stored p) ∈ trace ∧ p.id = id := by
  simp only [storedIds, List.mem_filterMap]
  constructor
  · rintro ⟨e, held, named⟩
    cases e with
    | composer handle owner note =>
      cases note <;> simp only [Event.storedId?, reduceCtorEq, Option.some.injEq] at named
      exact ⟨handle, owner, _, held, named⟩
    | invalidated => simp [Event.storedId?] at named
    | flowEnded => simp [Event.storedId?] at named
  · rintro ⟨handle, owner, p, held, rfl⟩
    exact ⟨_, held, rfl⟩

/-- Notes about the open request neither start nor store a page. -/
theorem started_aboutRequest {notes : List Note} (about : ∀ note ∈ notes, note.aboutRequest)
    (handle owner : Nat) : started (notes.map (.composer handle owner)) = 0 := by
  simp only [started, List.countP_eq_zero, List.mem_map]
  rintro e ⟨note, noted, rfl⟩
  have := about note noted
  cases note <;> simp_all [Note.aboutRequest, Event.startsPage]

theorem storedIds_aboutRequest {notes : List Note} (about : ∀ note ∈ notes, note.aboutRequest)
    (handle owner : Nat) : storedIds (notes.map (.composer handle owner)) = [] := by
  simp only [storedIds, List.filterMap_eq_nil_iff, List.mem_map]
  rintro e ⟨note, noted, rfl⟩
  have := about note noted
  cases note <;> simp_all [Note.aboutRequest, Event.storedId?]

/-- The invariant that keeps page ids apart: the counter is one past the number of pages started,
every id in use is positive and at most that number, no id is stored twice, and the pages being
drafted have distinct ids, none of them stored. -/
structure Fresh (d : Deployment) (trace : List Event) : Prop where
  next : d.guard.ids.next.toNat = (started trace + 1) % 2 ^ 64
  storedOnce : (storedIds trace).Nodup
  storedBelow : ∀ id ∈ storedIds trace, 0 < id.toNat ∧ id.toNat ≤ started trace
  draftBelow : ∀ (handle owner : Nat) (c : Composer) (D : PageDraft), d.composers[handle]? = some (owner, c) →
    c.page = some D → 0 < D.id.toNat ∧ D.id.toNat ≤ started trace
  draftUnstored : ∀ (handle owner : Nat) (c : Composer) (D : PageDraft),
    d.composers[handle]? = some (owner, c) → c.page = some D → D.id ∉ storedIds trace
  draftsApart : ∀ (handle owner : Nat) (c : Composer) (D : PageDraft) (handle' owner' : Nat)
    (c' : Composer) (D' : PageDraft), d.composers[handle]? = some (owner, c) → c.page = some D →
    d.composers[handle']? = some (owner', c') → c'.page = some D' → D.id = D'.id → handle = handle'

theorem fresh_init (config : Config) (appKey : CipherKey) (entropy : Entropy) :
    (init config appKey entropy).Fresh [] where
  next := rfl
  storedOnce := by simp [storedIds]
  storedBelow := by simp [storedIds]
  draftBelow := by simp [init]
  draftUnstored := by simp [init]
  draftsApart := by simp [init]

variable {d : Deployment} {trace : List Event} {handle owner : Nat}

/-- What a composer call must establish, for its own composer and the guard, to keep ids apart;
the other composers keep their drafts. -/
theorem Fresh.update (fresh : d.Fresh trace) {c' : Composer} {s' : Session} {g' : Guard}
    {more : List Event}
    (next : g'.ids.next.toNat = (started (trace ++ more) + 1) % 2 ^ 64)
    (storedOnce : (storedIds (trace ++ more)).Nodup)
    (storedBelow : ∀ id ∈ storedIds more, 0 < id.toNat ∧ id.toNat ≤ started (trace ++ more))
    (ownDraft : ∀ D', c'.page = some D' → 0 < D'.id.toNat ∧ D'.id.toNat ≤ started (trace ++ more) ∧
      D'.id ∉ storedIds (trace ++ more) ∧ ∀ h o c₀ D₀, h ≠ handle → d.composers[h]? = some (o, c₀) →
        c₀.page = some D₀ → D₀.id ≠ D'.id)
    (others : ∀ h o c₀ D₀, h ≠ handle → d.composers[h]? = some (o, c₀) → c₀.page = some D₀ →
      D₀.id ∉ storedIds more) :
    Fresh { guard := g', sessions := d.sessions.set owner s',
            composers := d.composers.set handle (owner, c') } (trace ++ more) where
  next := next
  storedOnce := storedOnce
  storedBelow id held := by
    rw [storedIds_append, List.mem_append] at held
    rcases held with old | new
    · have below := fresh.storedBelow id old
      simp only [started_append]
      omega
    · exact storedBelow id new
  draftBelow h o c₀ D₀ found drafted := by
    rcases getElem?_set_eq_some found with ⟨-, same⟩ | ⟨-, old⟩
    · cases same
      exact ⟨(ownDraft D₀ drafted).1, (ownDraft D₀ drafted).2.1⟩
    · have below := fresh.draftBelow h o c₀ D₀ old drafted
      simp only [started_append]
      omega
  draftUnstored h o c₀ D₀ found drafted := by
    rcases getElem?_set_eq_some found with ⟨-, same⟩ | ⟨other, old⟩
    · cases same
      exact (ownDraft D₀ drafted).2.2.1
    · rw [storedIds_append, List.mem_append, not_or]
      exact ⟨fresh.draftUnstored h o c₀ D₀ old drafted, others h o c₀ D₀ (Ne.symm other) old drafted⟩
  draftsApart h o c₀ D₀ h' o' c₁ D₁ found drafted found' drafted' same := by
    rcases getElem?_set_eq_some found with ⟨rfl, own⟩ | ⟨other, old⟩ <;>
      rcases getElem?_set_eq_some found' with ⟨rfl, own'⟩ | ⟨other', old'⟩
    · rfl
    · cases own
      exact absurd same.symm ((ownDraft D₀ drafted).2.2.2 h' o' c₁ D₁ (Ne.symm other') old' drafted')
    · cases own'
      exact absurd same ((ownDraft D₁ drafted').2.2.2 h o c₀ D₀ (Ne.symm other) old drafted)
    · exact fresh.draftsApart h o c₀ D₀ h' o' c₁ D₁ old drafted old' drafted' same

/-- A composer call keeps ids apart, as long as the pages started stay fewer than `2 ^ 64`. -/
theorem Fresh.call (fresh : d.Fresh trace) {c c' : Composer} {s s' : Session} {g' : Guard}
    {notes : List Note} {cc : ComposerCall} (coherent : c.Coherent)
    (found : d.composers[handle]? = some (owner, c)) (ok : c.call d.guard s cc = .ok (notes, c', g', s'))
    (few : started (trace ++ notes.map (.composer handle owner)) < 2 ^ 64) :
    Fresh { guard := g', sessions := d.sessions.set owner s',
            composers := d.composers.set handle (owner, c') } (trace ++ notes.map (.composer handle owner)) := by
  -- the draft's own facts before the call, and its distance from the other drafts
  have before : ∀ D, c.page = some D → 0 < D.id.toNat ∧ D.id.toNat ≤ started trace ∧
      D.id ∉ storedIds trace ∧ ∀ h o c₀ D₀, h ≠ handle → d.composers[h]? = some (o, c₀) →
        c₀.page = some D₀ → D₀.id ≠ D.id := fun D drafted =>
    ⟨(fresh.draftBelow handle owner c D found drafted).1, (fresh.draftBelow handle owner c D found drafted).2,
      fresh.draftUnstored handle owner c D found drafted,
      fun h o c₀ D₀ other found₀ drafted₀ same =>
        other (fresh.draftsApart h o c₀ D₀ handle owner c D found₀ drafted₀ found drafted same)⟩
  by_cases keeps : cc.keepsPage
  · obtain ⟨rfl, rfl, same, about⟩ := Composer.call_keepsPage keeps ok
    have noneStarted := started_aboutRequest about handle owner
    have noneStored := storedIds_aboutRequest about handle owner
    refine fresh.update ?_ ?_ (by simp [noneStored]) ?_ (by simp [noneStored])
    · simpa [noneStarted] using fresh.next
    · simpa [noneStored] using fresh.storedOnce
    · intro D' drafted
      rw [drafted, Option.map_some] at same
      obtain ⟨D, drafted₀, contents⟩ := Option.map_eq_some_iff.mp same.symm
      simp only [PageDraft.contents, Prod.mk.injEq] at contents
      rw [← contents.1]
      simpa [noneStarted, noneStored] using before D drafted₀
  · cases cc with
    | startPage =>
      obtain ⟨idle, rfl, rfl, rfl, rfl⟩ := Composer.call_startPage ok
      have noPage : c.page = none := by
        simpa using mt coherent.drafting.mp (by rcases idle with idle | idle <;> simp [idle])
      -- the new id is one past every id in use, and the counter moves one further
      have counted : started (trace ++ [Event.composer handle owner (.pageStarted d.guard.ids.next)]) =
          started trace + 1 := by simp [started, Event.startsPage]
      rw [List.map_singleton] at few ⊢
      rw [counted] at few
      have idNat : d.guard.ids.next.toNat = started trace + 1 := by
        rw [fresh.next, Nat.mod_eq_of_lt few]
      have noneStored : storedIds [Event.composer handle owner (.pageStarted d.guard.ids.next)] = [] := rfl
      refine fresh.update ?_ ?_ (by simp [noneStored]) ?_ (by simp [noneStored])
      · rw [counted]
        simp only [UInt64.toNat_add, idNat]
        rfl
      · simpa [noneStored] using fresh.storedOnce
      · intro D' drafted
        cases drafted
        dsimp only
        refine ⟨by omega, by rw [counted]; omega, ?_, ?_⟩
        · simp only [storedIds_append, noneStored, List.append_nil]
          intro stored
          have below := fresh.storedBelow _ stored
          omega
        · intro h o c₀ D₀ other found₀ drafted₀ same
          have below := fresh.draftBelow h o c₀ D₀ found₀ drafted₀
          rw [same] at below
          omega
    | endRequest =>
      obtain ⟨st, D, token, -, drafted, rfl, rfl, rfl, memoryCase, cipherCase⟩ :=
        Composer.call_endRequest ok
      -- sealing may draw from the entropy, never from the counter
      have sameIds : g'.ids = d.guard.ids := by
        cases strategy : d.guard.config.strategy with
        | memory => rw [(memoryCase strategy).2]
        | cipher => rw [(cipherCase strategy).2]
      have counted : started [Event.composer handle owner (.issued token st)] = 0 := rfl
      have noneStored : storedIds [Event.composer handle owner (.issued token st)] = [] := rfl
      rw [List.map_singleton]
      refine fresh.update ?_ ?_ (by simp [noneStored]) ?_ (by simp [noneStored])
      · rw [sameIds, fresh.next, started_append, counted, Nat.add_zero]
      · simpa [noneStored] using fresh.storedOnce
      · intro D' redrafted
        cases redrafted
        simpa [counted, noneStored] using before D drafted
    | endPage =>
      obtain ⟨-, -, -, rfl, rfl, stored⟩ := Composer.call_endPage ok
      cases storedAt : c.storedPage d.guard with
      | none =>
        rw [storedAt] at stored
        obtain ⟨rfl, rfl⟩ := stored
        refine fresh.update ?_ ?_ (by simp) (by simp) (by simp)
        · simpa using fresh.next
        · simpa using fresh.storedOnce
      | some p =>
        rw [storedAt] at stored
        obtain ⟨rfl, rfl⟩ := stored
        obtain ⟨D, drafted, rfl, -, -⟩ := Composer.storedPage_eq_some storedAt
        -- the draft's id is stored now, and it was stored nowhere before
        obtain ⟨positive, below, unstored, apart⟩ := before D drafted
        have storedOne : storedIds [Event.composer handle owner (.stored ⟨D.id, D.nonce, D.states, D.flows⟩)] =
            [D.id] := rfl
        have counted : started [Event.composer handle owner (.stored ⟨D.id, D.nonce, D.states, D.flows⟩)] =
            0 := rfl
        simp only [Option.toList_some, List.map_cons, List.map_nil]
        refine fresh.update ?_ ?_ ?_ (by simp) ?_
        · rw [Guard.store_ids, fresh.next, started_append, counted, Nat.add_zero]
        · rw [storedIds_append, storedOne]
          exact List.nodup_append.mpr ⟨fresh.storedOnce, List.nodup_cons.mpr ⟨by simp, List.nodup_nil⟩,
            fun a held b same => by
              simp only [List.mem_singleton] at same
              rintro rfl
              exact unstored (same ▸ held)⟩
        · intro id held
          rw [storedOne, List.mem_singleton] at held
          subst held
          simp only [started_append, counted, Nat.add_zero]
          exact ⟨positive, below⟩
        · intro h o c₀ D₀ other found₀ drafted₀
          rw [storedOne, List.mem_singleton]
          exact apart h o c₀ D₀ other found₀ drafted₀
    | _ => simp [ComposerCall.keepsPage] at keeps

/-- Calls that draw no id, change no composer and neither start nor store a page keep ids apart. -/
theorem Fresh.quiet (fresh : d.Fresh trace) {d' : Deployment} {more : List Event}
    (ids : d'.guard.ids = d.guard.ids) (composers : d'.composers = d.composers)
    (noneStarted : started more = 0) (noneStored : storedIds more = []) : d'.Fresh (trace ++ more) := by
  refine ⟨?_, ?_, ?_, ?_, ?_, ?_⟩
  · rw [ids, fresh.next, started_append, noneStarted, Nat.add_zero]
  · simpa [noneStored] using fresh.storedOnce
  · simpa [noneStored, noneStarted] using fresh.storedBelow
  · simpa [composers, noneStarted] using fresh.draftBelow
  · simpa [composers, noneStored] using fresh.draftUnstored
  · simpa [composers] using fresh.draftsApart

/-- Every call keeps ids apart, as long as the pages started stay fewer than `2 ^ 64`. -/
theorem Fresh.step (fresh : d.Fresh trace) (sound : d.Sound trace) (call : Call)
    (few : started (trace ++ (d.step call).2) < 2 ^ 64) :
    (d.step call).1.Fresh (trace ++ (d.step call).2) := by
  rcases stepped : d.step call with ⟨d', events⟩
  rw [stepped] at few
  rcases step_cases stepped with ⟨rfl, rfl⟩ | ⟨id, rfl, rfl⟩ | ⟨session, -, rfl, rfl⟩ |
      ⟨handle, owner, c, s, cc, notes, c', g', s', found, -, ok, rfl, rfl⟩ |
      ⟨session, s, -, rfl, rfl⟩ | ⟨session, s, flow, -, rfl, rfl⟩
  · simpa using fresh
  · -- opening a session draws no id
    exact fresh.quiet (by simp) rfl rfl rfl
  · -- a new composer drafts nothing
    simp only [List.append_nil]
    have newOrOld : ∀ (h o : Nat) (c₀ : Composer), (d.composers ++ [(session, ({} : Composer))])[h]? = some (o, c₀) →
        d.composers[h]? = some (o, c₀) ∨ c₀.page = none := by
      intro h o c₀ found
      rw [List.getElem?_append] at found
      split at found
      · exact .inl found
      · cases offset : h - d.composers.length with
        | zero =>
          simp only [offset, List.getElem?_cons_zero, Option.some.injEq, Prod.mk.injEq] at found
          exact .inr (found.2 ▸ rfl)
        | succ k => simp [offset] at found
    refine ⟨fresh.next, fresh.storedOnce, fresh.storedBelow, ?_, ?_, ?_⟩
    · intro h o c₀ D found drafted
      rcases newOrOld h o c₀ found with old | empty
      · exact fresh.draftBelow h o c₀ D old drafted
      · simp [empty] at drafted
    · intro h o c₀ D found drafted
      rcases newOrOld h o c₀ found with old | empty
      · exact fresh.draftUnstored h o c₀ D old drafted
      · simp [empty] at drafted
    · intro h o c₀ D h' o' c₁ D' found drafted found' drafted'
      rcases newOrOld h o c₀ found with old | empty
      · rcases newOrOld h' o' c₁ found' with old' | empty'
        · exact fresh.draftsApart h o c₀ D h' o' c₁ D' old drafted old' drafted'
        · simp [empty'] at drafted'
      · simp [empty] at drafted
  · exact fresh.call (sound.coherent handle owner c found) found ok few
  · -- invalidating a session or ending a flow draws and stores nothing
    exact fresh.quiet rfl rfl rfl rfl
  · exact fresh.quiet (by simp) rfl rfl rfl

/-- In every run of a fresh guard under the memory strategy in which fewer than `2 ^ 64` pages are
started, page ids are kept apart. -/
theorem fresh_run {config : Config} (memory : config.strategy = .memory) (appKey : CipherKey)
    (entropy : Entropy) (calls : List Call)
    (few : started ((init config appKey entropy).run calls).2 < 2 ^ 64) :
    ((init config appKey entropy).run calls).1.Fresh ((init config appKey entropy).run calls).2 := by
  have both := @run_preserves (fun d trace => d.Sound trace ∧ (started trace < 2 ^ 64 → d.Fresh trace))
    (fun d trace call ⟨sound, fresh⟩ => ⟨sound.step call, fun few =>
      (fresh (by simp only [started_append] at few; omega)).step sound call few⟩)
    (init config appKey entropy) []
    ⟨sound_init memory appKey entropy, fun _ => fresh_init config appKey entropy⟩ calls
  simp only [List.nil_append] at both
  exact both.2 few

end Deployment

end FormIntegrity

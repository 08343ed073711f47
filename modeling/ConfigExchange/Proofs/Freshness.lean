import ConfigExchange.Configuration.Service
import ConfigExchange.Proofs.Store.History
import Mathlib.Data.List.Induction

/-! What a running service answers is the configuration of its source as it stands, however edits
and requests were interleaved before, and whatever was kept of earlier answers. -/
namespace ConfigExchange

/-- The configuration at some moment, and whether any edit before it broke off. -/
structure Moment where
  groups : GroupMap
  broken : Bool

/-- A store whose configuration is handed out, and what is kept of the answers. For the theory, the
desk also records the configuration at the start and after each completed edit, oldest first, and
whether any edit broke off. -/
structure Desk where
  store : Store
  cache : Option Cache
  timeline : List Moment
  broken : Bool := false

namespace Desk

/-- What happens at a desk. -/
inductive Call where
  | ask (operation : Store.Operation)
  | handle (now : Micros) (requested : NameSet)

/-- What is asked of the store in some calls. -/
def Call.operations (calls : List Call) : List Store.Operation :=
  calls.filterMap fun
    | ask operation => some operation
    | handle _ _ => none

/-- Whether a call may count as a generation. -/
def Call.mayEdit : Call → Bool
  | ask .snapshot => false
  | ask _ => true
  | handle _ _ => false

/-- A desk at which nothing happened yet. -/
def start (groups : List Group) (cache : Option Cache) : Desk where
  store := .ofGroups groups
  cache := cache
  timeline := [⟨GroupMap.ofGroups groups, false⟩]

/-- Something is asked of the store. -/
def ask (desk : Desk) (operation : Store.Operation) : Desk :=
  let (answer, store) := desk.store.perform operation
  { desk with
    store
    timeline :=
      if answer.completed then desk.timeline ++ [⟨store.groups, desk.broken⟩] else desk.timeline
    broken := desk.broken || answer.brokeOff }

variable {α : Type}

/-- What the service answers to a request. -/
def answer (service : Service α) (desk : Desk) (now : Micros) (requested : NameSet) : Handled :=
  service.handle (fun _ => some (.store desk.store)) desk.cache now requested

def perform (service : Service α) (desk : Desk) : Call → Desk
  | .ask operation => desk.ask operation
  | .handle now requested => { desk with cache := (answer service desk now requested).cache }

def run (service : Service α) (desk : Desk) (calls : List Call) : Desk :=
  calls.foldl (perform service) desk

theorem run_concat (service : Service α) (desk : Desk) (calls : List Call) (call : Call) :
    desk.run service (calls ++ [call]) = (desk.run service calls).perform service call :=
  List.foldl_concat ..

/-! ### What the past was -/

theorem Call.operations_ask (calls : List Call) (operation : Store.Operation) :
    operations (calls ++ [.ask operation]) = operations calls ++ [operation] :=
  List.filterMap_append

theorem Call.operations_handle (calls : List Call) (now : Micros) (requested : NameSet) :
    operations (calls ++ [.handle now requested]) = operations calls :=
  List.filterMap_append.trans (List.append_nil _)

/-- An edit that is completed is a new moment. -/
theorem timeline_ask (desk : Desk) (operation : Store.Operation) :
    (desk.ask operation).timeline =
      if operation.completes then
        desk.timeline ++ [⟨(desk.ask operation).store.groups, desk.broken⟩]
      else desk.timeline := by
  rw [← Store.completed_perform desk.store operation]
  rfl

/-- A moment was what some of the calls had come to, after so many completed edits. -/
def Past (groups : List Group) (calls : List Call) (count : Nat) (moment : Moment) : Prop :=
  ∃ earlier, earlier <+: calls ∧
    (Call.operations earlier).countP Store.Operation.completes = count ∧
    moment = ⟨((Store.ofGroups groups).after (Call.operations earlier)).groups,
      (Call.operations earlier).any Store.Operation.breaksOff⟩

/-- What a desk is like after some calls, told from the calls alone. Every moment of its timeline
came after some of them, by as many completed edits as there are moments before it. -/
structure Told (groups : List Group) (calls : List Call) (desk : Desk) : Prop where
  store : desk.store = (Store.ofGroups groups).after (Call.operations calls)
  broken : desk.broken = (Call.operations calls).any Store.Operation.breaksOff
  counted : desk.timeline.length =
    (Call.operations calls).countP Store.Operation.completes + 1
  moments : ∀ place moment, desk.timeline[place]? = some moment → Past groups calls place moment

namespace Past

variable {groups : List Group} {calls : List Call} {count : Nat} {moment : Moment}

/-- What was, was. -/
theorem append (hPast : Past groups calls count moment) (more : List Call) :
    Past groups (calls ++ more) count moment := by
  obtain ⟨earlier, hPrefix, hRest⟩ := hPast
  exact ⟨earlier, hPrefix.trans (List.prefix_append ..), hRest⟩

/-- The groups at a moment are those of a plain map to which the edits before it were made. -/
theorem content (hPast : Past groups calls count moment) : ∃ earlier, earlier <+: calls ∧
    (Call.operations earlier).countP Store.Operation.completes = count ∧
    (Call.operations earlier).any Store.Operation.breaksOff = moment.broken ∧
    Store.Content.of moment.groups.get? =
      (Call.operations earlier).foldl Store.Content.perform
        (Store.Content.of (Store.last? groups)) := by
  obtain ⟨earlier, hPrefix, hCount, rfl⟩ := hPast
  exact ⟨earlier, hPrefix, hCount, rfl, Store.content_after_ofGroups ..⟩

end Past

namespace Told

variable {groups : List Group} {calls : List Call} {desk : Desk}

/-- A request is no part of the past. -/
theorem handle (hTold : Told groups calls desk) (service : Service α) (now : Micros)
    (requested : NameSet) :
    Told groups (calls ++ [.handle now requested])
      (desk.perform service (.handle now requested)) := by
  have hSame := Call.operations_handle calls now requested
  exact ⟨hSame ▸ hTold.store, hSame ▸ hTold.broken, hSame ▸ hTold.counted,
    fun place moment hMoment => (hTold.moments place moment hMoment).append _⟩

/-- What is asked of the store is, and an edit that is completed is a moment of it. -/
theorem ask (hTold : Told groups calls desk) (operation : Store.Operation) :
    Told groups (calls ++ [.ask operation]) (desk.ask operation) := by
  have hMore := Call.operations_ask calls operation
  have hStore : (desk.ask operation).store =
      (Store.ofGroups groups).after (Call.operations (calls ++ [.ask operation])) := by
    rw [hMore, Store.after_append, ← hTold.store]
    rfl
  have hBroken : (Call.operations (calls ++ [.ask operation])).any Store.Operation.breaksOff =
      (desk.broken || operation.breaksOff) := by
    rw [hMore, List.any_append, ← hTold.broken, List.any_cons, List.any_nil, Bool.or_false]
  have hCount : (Call.operations (calls ++ [.ask operation])).countP Store.Operation.completes + 1 =
      desk.timeline.length + if operation.completes then 1 else 0 := by
    rw [hMore, List.countP_append, List.countP_singleton, hTold.counted, Nat.add_right_comm]
  refine ⟨hStore, ?_, ?_, fun place moment hMoment => ?_⟩
  · rw [hBroken, ← Store.brokeOff_perform desk.store operation]
    rfl
  · rw [hCount, timeline_ask, apply_ite List.length, List.length_append]
    split <;> rfl
  · rw [timeline_ask] at hMoment
    split at hMoment
    · next hCompletes =>
      rcases Nat.lt_or_ge place desk.timeline.length with hBefore | hNew
      · rw [List.getElem?_append_left hBefore] at hMoment
        exact (hTold.moments place moment hMoment).append _
      · -- The last moment comes after all calls, this one included.
        rw [List.getElem?_append_right hNew, List.getElem?_singleton] at hMoment
        split at hMoment
        · cases hMoment
          refine ⟨_, List.prefix_rfl, ?_, ?_⟩
          · rw [if_pos hCompletes] at hCount
            omega
          · rw [hBroken, Store.Operation.breaksOff_of_completes hCompletes, Bool.or_false, hStore]
        · cases hMoment
    · exact (hTold.moments place moment hMoment).append _

theorem run (service : Service α) (groups : List Group) (cache : Option Cache)
    (calls : List Call) : Told groups calls ((start groups cache).run service calls) := by
  induction calls using List.reverseRecOn with
  | nil =>
      refine ⟨rfl, rfl, rfl, fun place moment hMoment => ⟨[], List.prefix_rfl, ?_⟩⟩
      cases place with
      | zero =>
          cases hMoment
          exact ⟨rfl, rfl⟩
      | succ place => cases hMoment
  | append_singleton calls call ih =>
      rw [run_concat]
      cases call with
      | ask operation => exact ih.ask operation
      | handle now requested => exact ih.handle service now requested

end Told

/-! ### Answers to a request -/

/-- A snapshot answers a request, if it is the part of the configuration after `generation`
completed edits that the request is for, and no edit had broken off by then. -/
def Answers (desk : Desk) (generation : UInt64) (requested : NameSet) (snapshot : Snapshot) :
    Prop :=
  snapshot.generation = generation ∧
    ∃ groups, desk.timeline[generation.toNat]? = some ⟨groups, false⟩ ∧
      ∀ name, snapshot.group? name = if requested.contains name then groups.get? name else none

/-- Whatever a cache keeps answers the request it is kept for. -/
def Keeps (desk : Desk) (cache : Option Cache) : Prop :=
  ∀ c, cache = some c → ∀ entry ∈ c.entries,
    desk.Answers entry.key.generation entry.key.groups entry.snapshot

/-- What holds at a desk all the time: the past is as long as the generation says, a store that is
not poisoned holds the latest configuration, and what is kept answers the request it is kept for. -/
structure Sound (desk : Desk) : Prop where
  keyed : GroupMap.Keyed desk.store.groups
  counted : desk.timeline.length = desk.store.generation.toNat + 1
  latest : desk.store.poisoned = false →
    desk.timeline[desk.store.generation.toNat]? = some ⟨desk.store.groups, false⟩
  poisoned : desk.store.poisoned = desk.broken
  kept : desk.Keeps desk.cache

theorem sound_start (groups : List Group) {cache : Option Cache}
    (hEmpty : ∀ c, cache = some c → c.entries = []) : Sound (start groups cache) where
  keyed := GroupMap.keyed_ofGroups groups
  counted := rfl
  latest := fun _ => rfl
  poisoned := rfl
  kept := by
    intro c hCache entry hEntry
    rw [hEmpty c hCache] at hEntry
    exact absurd hEntry List.not_mem_nil

/-- What answers a request goes on to do so when the past grows. -/
theorem Answers.append {desk next : Desk} {generation : UInt64} {requested : NameSet}
    {snapshot : Snapshot} (h : desk.Answers generation requested snapshot)
    (hTimeline : desk.timeline <+: next.timeline) : next.Answers generation requested snapshot := by
  obtain ⟨hGeneration, groups, hGroups, hContent⟩ := h
  refine ⟨hGeneration, groups, ?_, hContent⟩
  obtain ⟨later, hLater⟩ := hTimeline
  rw [← hLater, List.getElem?_append_left (List.getElem?_eq_some_iff.1 hGroups).1]
  exact hGroups

theorem mayEdit_of_completed (store : Store) (operation : Store.Operation)
    (h : (store.perform operation).1.completed = true) : (Call.ask operation).mayEdit = true := by
  cases operation with
  | snapshot => cases h
  | _ => rfl

/-- Edits keep a desk sound, as long as the generation does not wrap. -/
theorem Sound.ask {desk : Desk} (hSound : Sound desk) (operation : Store.Operation)
    (hRoom : (Call.ask operation).mayEdit = true → desk.store.generation.toNat + 1 < UInt64.size) :
    Sound (desk.ask operation) := by
  have hKeyed := Store.keyed_perform hSound.keyed operation
  have hTurn := Store.turn_perform desk.store operation
  have hEdit := mayEdit_of_completed desk.store operation
  unfold Desk.ask
  revert hKeyed hTurn hEdit
  generalize desk.store.perform operation = result
  obtain ⟨answer, next⟩ := result
  intro hKeyed hTurn hEdit
  cases hTurn with
  | completes hCompleted hBroken hGeneration hPoisoned =>
      have hNext : next.generation.toNat = desk.store.generation.toNat + 1 := by
        have hSmall := hRoom (hEdit hCompleted)
        rw [hGeneration, UInt64.toNat_add]
        exact Nat.mod_eq_of_lt hSmall
      simp only [hCompleted, hBroken, if_true, Bool.or_false]
      refine ⟨hKeyed, ?_, fun hFine => ?_, hPoisoned.trans hSound.poisoned, ?_⟩
      · simp [hSound.counted, hNext]
      · have hUnbroken : desk.broken = false := by
          rw [← hSound.poisoned, ← hPoisoned]
          exact hFine
        show (desk.timeline ++ [⟨next.groups, desk.broken⟩])[next.generation.toNat]? = _
        rw [hNext, ← hSound.counted, hUnbroken]
        exact List.getElem?_concat_length
      · intro cache hCache entry hEntry
        exact (hSound.kept cache hCache entry hEntry).append (List.prefix_append _ _)
  | breaksOff hCompleted hBroken hGeneration hPoisoned =>
      simp only [hCompleted, hBroken, Bool.or_true]
      refine ⟨hKeyed, ?_, fun hFine => ?_, hPoisoned, hSound.kept⟩
      · exact hSound.counted.trans (by rw [hGeneration])
      · exact absurd (hPoisoned.symm.trans hFine) (by decide)
  | reads hCompleted hBroken =>
      simp only [hCompleted, hBroken, Bool.or_false]
      exact ⟨hKeyed, hSound.counted, hSound.latest, hSound.poisoned, hSound.kept⟩

/-- A sound desk whose store is not poisoned has a current view, which a request cuts down. -/
theorem Sound.answers_restrict {desk : Desk} (hSound : Sound desk)
    (hFine : desk.store.poisoned = false) (requested : NameSet) :
    desk.Answers desk.store.generation requested
      (Snapshot.restrict ⟨desk.store.generation, desk.store.groups⟩ requested) :=
  ⟨rfl, desk.store.groups, hSound.latest hFine, Snapshot.group?_restrict hSound.keyed requested⟩

/-- What is handed out answers the request at the current generation, something is handed out
unless the store is poisoned, and what is kept afterwards answers the request it is kept for. -/
structure Serves (desk : Desk) (requested : NameSet) (handled : Handled) : Prop where
  ready : ∀ snapshot, handled.outcome = .ready snapshot →
    desk.Answers desk.store.generation requested snapshot
  served : desk.store.poisoned = false → ∃ snapshot, handled.outcome = .ready snapshot
  kept : desk.Keeps handled.cache

/-- A failure to take a snapshot means that the store is poisoned, and nothing is kept of it. -/
theorem serves_failed {desk : Desk} (hPoisoned : desk.store.poisoned = true) {cache : Option Cache}
    (hKept : desk.Keeps cache) (requested : NameSet) (reason : String) :
    Serves desk requested ⟨.failed reason, cache, true⟩ where
  ready := fun snapshot hReady => nomatch hReady
  served := fun hFine => absurd (hPoisoned.symm.trans hFine) (by decide)
  kept := hKept

/-- A new snapshot is handed out, and kept for the same request. -/
theorem Sound.serves_taken {desk : Desk} (hSound : Sound desk) (hFine : desk.store.poisoned = false)
    {cache : Option Cache} (hKept : desk.Keeps cache) (now : Micros) (requested : NameSet) :
    let restricted := Snapshot.restrict ⟨desk.store.generation, desk.store.groups⟩ requested
    Serves desk requested
      ⟨.ready restricted, cache.map fun cache => cache.insert now requested restricted, true⟩ := by
  intro restricted
  have hAnswers : desk.Answers desk.store.generation requested restricted :=
    hSound.answers_restrict hFine requested
  refine ⟨fun snapshot hReady => ?_, fun _ => ⟨restricted, rfl⟩,
    fun final hFinal entry hEntry => ?_⟩
  · cases hReady
    exact hAnswers
  · obtain ⟨c, hCache, rfl⟩ := Option.map_eq_some_iff.1 hFinal
    rcases Cache.mem_of_mem_insert hEntry with rfl | hOld
    · exact hAnswers
    · exact hKept c hCache entry hOld

/-- Where the cache does not help, the source is asked for a snapshot. -/
theorem Sound.serves_miss {desk : Desk} (hSound : Sound desk) {cache : Option Cache}
    (hKept : desk.Keeps cache) (now : Micros) (requested : NameSet) :
    Serves desk requested (match (Source.store desk.store).snapshot with
      | .error error => ⟨.failed error.message, cache, true⟩
      | .ok snapshot => ⟨.ready (snapshot.restrict requested),
          cache.map fun cache => cache.insert now requested (snapshot.restrict requested), true⟩) := by
  cases hPoisoned : desk.store.poisoned with
  | true =>
      rw [Source.snapshot, Store.snapshot_of_poisoned hPoisoned]
      exact serves_failed hPoisoned hKept requested _
  | false =>
      rw [Source.snapshot, Store.snapshot_of_sound hSound.keyed hPoisoned]
      exact hSound.serves_taken hPoisoned hKept now requested

/-- A source at a sound desk serves every request. -/
theorem Sound.serves_answer {desk : Desk} (hSound : Sound desk) (now : Micros)
    (requested : NameSet) :
    Serves desk requested ((Source.store desk.store).answer desk.cache now requested) := by
  cases hCache : desk.cache with
  | none =>
      refine hSound.serves_miss (fun cache hSome => ?_) now requested
      cases hSome
  | some cache =>
      have hLeft : desk.Keeps (some (cache.get now ⟨desk.store.generation, requested⟩).2) := by
        intro c hLeft entry hEntry
        cases hLeft
        exact hSound.kept cache hCache entry (Cache.mem_of_mem_get hEntry)
      unfold Source.answer
      simp only [Source.generation]
      revert hLeft
      cases hGet : cache.get now ⟨desk.store.generation, requested⟩ with
      | mk found left =>
          intro hLeft
          cases found with
          | none => exact hSound.serves_miss hLeft now requested
          | some snapshot =>
              have hHit : (cache.get now ⟨desk.store.generation, requested⟩).1 = some snapshot := by
                rw [hGet]
              obtain ⟨entry, hEntry, hKey, hSnapshot⟩ := Cache.mem_of_get hHit
              have hAnswers := hSound.kept cache hCache entry hEntry
              rw [hKey, hSnapshot] at hAnswers
              refine ⟨fun other hOther => ?_, fun _ => ⟨snapshot, rfl⟩, hLeft⟩
              cases hOther
              exact hAnswers

/-! ### Runs -/

/-- A service that a source was published to answers from that source. -/
theorem handle_of_publish {service running : Service α} {source : α}
    (hPublished : service.publish source = some running) {find : α → Option Source} {found : Source}
    (hFound : find source = some found) (cache : Option Cache) (now : Micros)
    (requested : NameSet) :
    running.handle find cache now requested = found.answer cache now requested := by
  unfold Service.publish at hPublished
  split at hPublished
  · next hOpen =>
    cases hPublished
    simp [Service.handle, Service.status, Service.runningSource, hOpen.1, hFound]
  · cases hPublished

theorem Sound.serves {service running : Service α} {source : α}
    (hPublished : service.publish source = some running) {desk : Desk} (hSound : Sound desk)
    (now : Micros) (requested : NameSet) :
    Serves desk requested (answer running desk now requested) := by
  rw [answer, handle_of_publish hPublished rfl]
  exact hSound.serves_answer now requested

theorem generation_ask (desk : Desk) (operation : Store.Operation) :
    (desk.ask operation).store.generation.toNat ≤
      desk.store.generation.toNat + if (Call.ask operation).mayEdit then 1 else 0 := by
  have hTurn := Store.turn_perform desk.store operation
  have hEdit := mayEdit_of_completed desk.store operation
  show (desk.store.perform operation).2.generation.toNat ≤ _
  revert hTurn hEdit
  generalize desk.store.perform operation = result
  obtain ⟨answer, next⟩ := result
  intro hTurn hEdit
  cases hTurn with
  | completes hCompleted _ hGeneration _ =>
      rw [if_pos (hEdit hCompleted), hGeneration, UInt64.toNat_add]
      exact Nat.mod_le _ _
  | breaksOff _ _ hGeneration _ =>
      rw [hGeneration]
      exact Nat.le_add_right _ _
  | reads _ _ => exact Nat.le_add_right _ _

/-- A desk is sound after any calls, if there are fewer edits among them than generations. -/
theorem Sound.run {service running : Service α} {source : α}
    (hPublished : service.publish source = some running) {desk : Desk} (hSound : Sound desk)
    (calls : List Call)
    (hRoom : desk.store.generation.toNat + calls.countP Call.mayEdit < UInt64.size) :
    Sound (desk.run running calls) := by
  induction calls generalizing desk with
  | nil => exact hSound
  | cons first rest ih =>
      rw [List.countP_cons] at hRoom
      cases first with
      | ask operation =>
          have hNext := generation_ask desk operation
          refine ih (hSound.ask operation fun hEdit => ?_) ?_
          · rw [if_pos hEdit] at hRoom
            omega
          · show (desk.ask operation).store.generation.toNat + _ < _
            omega
      | handle now requested =>
          have hKept := (hSound.serves hPublished now requested).kept
          refine ih ⟨hSound.keyed, hSound.counted, hSound.latest, hSound.poisoned, hKept⟩ ?_
          show desk.store.generation.toNat + _ < _
          omega

/-- After any edits and requests, and whatever was kept of the answers, a request that is answered
with a snapshot is answered with the groups it asks for as they stood after the latest completed
edit, before which no edit broke off. They are those of a plain map to which the edits were made up
to then, one after the other; the generation counts the completed ones. As long as no edit has
broken off, every request is answered so. -/
theorem answer_current {service running : Service α} {source : α}
    (hPublished : service.publish source = some running) (groups : List Group)
    {cache : Option Cache} (hEmpty : ∀ c, cache = some c → c.entries = []) (calls : List Call)
    (hEdits : calls.countP Call.mayEdit < UInt64.size) (now : Micros) (requested : NameSet) :
    let desk := (start groups cache).run running calls
    let outcome := (answer running desk now requested).outcome
    (∀ snapshot, outcome = .ready snapshot →
      snapshot.generation = desk.store.generation ∧
        ∃ configuration, desk.timeline[desk.store.generation.toNat]? = some ⟨configuration, false⟩ ∧
          (∃ earlier, earlier <+: calls ∧
            (Call.operations earlier).countP Store.Operation.completes =
              desk.store.generation.toNat ∧
            (Call.operations earlier).any Store.Operation.breaksOff = false ∧
            Store.Content.of configuration.get? =
              (Call.operations earlier).foldl Store.Content.perform
                (Store.Content.of (Store.last? groups))) ∧
          ∀ name, snapshot.group? name =
            if requested.contains name then configuration.get? name else none) ∧
    desk.store.generation.toNat = (Call.operations calls).countP Store.Operation.completes ∧
    desk.broken = (Call.operations calls).any Store.Operation.breaksOff ∧
    (desk.broken = false → ∃ snapshot, outcome = .ready snapshot) := by
  intro desk outcome
  have hSound : Sound desk := by
    refine (sound_start groups hEmpty).run hPublished calls ?_
    show (0 : UInt64).toNat + _ < _
    simpa using hEdits
  have hTold : Told groups calls desk := .run running groups cache calls
  have hServes := hSound.serves hPublished now requested
  refine ⟨fun snapshot hReady => ?_, ?_, hTold.broken,
    fun hBroken => hServes.served (hSound.poisoned.trans hBroken)⟩
  · obtain ⟨hGeneration, configuration, hMoment, hContent⟩ := hServes.ready snapshot hReady
    exact ⟨hGeneration, configuration, hMoment, (hTold.moments _ _ hMoment).content, hContent⟩
  · exact Nat.succ.inj (hSound.counted.symm.trans hTold.counted)

/-- A kept answer outlives an edit that breaks off, which the answer does not show. -/
theorem answer_current_of_kept :
    let service : Service Unit := { enabled := true }
    let running : Service Unit := { enabled := true, phase := .running, published := some () }
    let requested : NameSet := NameMap.insert ∅ "web" ()
    let calls := [Call.ask (.put { name := "web" }), .handle 0 requested,
      .ask (.update "web" [.addJar "a.jar", .fail])]
    let desk := (start [] (some { capacity := 1, ttl := 10 })).run running calls
    service.publish () = some running ∧ desk.broken = true ∧
      ∃ snapshot, (answer running desk 9 requested).outcome = .ready snapshot ∧
        snapshot.generation = desk.store.generation ∧
          ∃ configuration,
            desk.timeline[desk.store.generation.toNat]? = some ⟨configuration, false⟩ ∧
              (∃ earlier, earlier <+: calls ∧
                (Call.operations earlier).countP Store.Operation.completes = 1 ∧
                (Call.operations earlier).any Store.Operation.breaksOff = false ∧
                Store.Content.of configuration.get? =
                  (Call.operations earlier).foldl Store.Content.perform
                    (Store.Content.of (Store.last? []))) ∧
              ∀ name, snapshot.group? name =
                if requested.contains name then configuration.get? name else none := by
  intro service running requested calls desk
  have hPublished : service.publish () = some running := rfl
  have hReady : ∃ snapshot, (answer running desk 9 requested).outcome = .ready snapshot := ⟨_, rfl⟩
  obtain ⟨snapshot, hSnapshot⟩ := hReady
  have hEmpty : ∀ c, some (⟨1, 10, []⟩ : Cache) = some c → c.entries = [] := by
    intro c hSome
    cases hSome
    rfl
  have hCurrent := answer_current hPublished [] hEmpty calls (by decide) 9 requested
  exact ⟨hPublished, rfl, snapshot, hSnapshot, hCurrent.1 snapshot hSnapshot⟩

end Desk

end ConfigExchange

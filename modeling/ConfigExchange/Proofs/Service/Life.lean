import ConfigExchange.Configuration.Service
import ConfigExchange.Proofs.Store
import Mathlib.Data.List.Induction

/-! The life of a service, whatever sources it is offered and whenever it is stopped: it publishes
one source at most, and answers every request from that one or not at all. -/
namespace ConfigExchange

/-- Where an answer of a source comes from, and what is kept then. -/
inductive Source.Answers (source : Source) (cache : Option Cache) (now : Micros)
    (requested : NameSet) : Handled → Prop where
  /-- The answer was kept. -/
  | keeps {held left : Cache} {entry : CacheEntry} (hCache : cache = some held)
      (hEntry : entry ∈ held.entries) (hKey : entry.key = ⟨source.generation, requested⟩)
      (hLeft : ∀ other ∈ left.entries, other ∈ held.entries) :
      Answers source cache now requested ⟨.ready entry.snapshot, some left, false⟩
  /-- The source gives a snapshot. -/
  | gives {left : Option Cache} {whole : Snapshot} (hSnapshot : source.snapshot = .ok whole)
      (hLeft : ∀ later, left = some later →
        ∃ held, cache = some held ∧ ∀ entry ∈ later.entries, entry ∈ held.entries) :
      Answers source cache now requested ⟨.ready (whole.restrict requested),
        left.map fun later => later.insert now requested (whole.restrict requested), true⟩
  /-- The source has no snapshot to give. -/
  | fails {left : Option Cache} {error : SourceError} (hSnapshot : source.snapshot = .error error)
      (hLeft : ∀ later, left = some later →
        ∃ held, cache = some held ∧ ∀ entry ∈ later.entries, entry ∈ held.entries) :
      Answers source cache now requested ⟨.failed error.message, left, true⟩

/-- A source that is asked for a snapshot gives one or fails. -/
theorem Source.answers_taken (source : Source) {cache left : Option Cache} (now : Micros)
    (requested : NameSet)
    (hLeft : ∀ later, left = some later →
      ∃ held, cache = some held ∧ ∀ entry ∈ later.entries, entry ∈ held.entries) :
    source.Answers cache now requested (match source.snapshot with
      | .error error => ⟨.failed error.message, left, true⟩
      | .ok whole => ⟨.ready (whole.restrict requested),
          left.map fun later => later.insert now requested (whole.restrict requested), true⟩) := by
  cases hSnapshot : source.snapshot with
  | error error => exact .fails hSnapshot hLeft
  | ok whole => exact .gives hSnapshot hLeft

theorem Source.answers_answer (source : Source) (cache : Option Cache) (now : Micros)
    (requested : NameSet) :
    source.Answers cache now requested (source.answer cache now requested) := by
  unfold answer
  cases cache with
  | none => exact source.answers_taken now requested nofun
  | some held =>
      have hLeft := fun entry => @Cache.mem_of_mem_get held now ⟨source.generation, requested⟩ entry
      have hHit := @Cache.mem_of_get held now ⟨source.generation, requested⟩
      simp only
      cases hGet : held.get now ⟨source.generation, requested⟩ with
      | mk hit left =>
          rw [hGet] at hLeft hHit
          cases hit with
          | none =>
              refine source.answers_taken now requested fun later hLater => ?_
              cases hLater
              exact ⟨held, rfl, hLeft⟩
          | some snapshot =>
              obtain ⟨entry, hEntry, hKey, rfl⟩ := hHit rfl
              exact .keeps rfl hEntry hKey hLeft

/-- Whatever is kept after an answer was kept before, or was given for it. -/
theorem Source.Answers.mem_cache {source : Source} {cache : Option Cache} {now : Micros}
    {requested : NameSet} {handled : Handled}
    (hAnswers : source.Answers cache now requested handled)
    {later : Cache} (hLater : handled.cache = some later) {entry : CacheEntry}
    (hEntry : entry ∈ later.entries) :
    (∃ held, cache = some held ∧ entry ∈ held.entries) ∨
      ∃ whole, source.snapshot = .ok whole ∧
        entry = ⟨⟨whole.generation, requested⟩, whole.restrict requested, now⟩ := by
  cases hAnswers with
  | keeps hCache _ _ hLeft =>
      cases hLater
      exact .inl ⟨_, hCache, hLeft entry hEntry⟩
  | fails _ hLeft =>
      obtain ⟨held, hHeld, hOld⟩ := hLeft later hLater
      exact .inl ⟨held, hHeld, hOld entry hEntry⟩
  | gives hSnapshot hLeft =>
      obtain ⟨left, hSome, rfl⟩ := Option.map_eq_some_iff.1 hLater
      rcases Cache.mem_of_mem_insert hEntry with rfl | hOld
      · exact .inr ⟨_, hSnapshot, rfl⟩
      · obtain ⟨held, hHeld, hBefore⟩ := hLeft left hSome
        exact .inl ⟨held, hHeld, hBefore entry hOld⟩

/-- Where nothing can be kept, nothing is. -/
theorem Source.cache_answer_none (source : Source) (now : Micros) (requested : NameSet) :
    (source.answer none now requested).cache = none := by
  unfold answer
  simp only
  split <;> rfl

namespace Service

variable {α : Type}

/-- A source is published if the service is enabled, not stopped and without a source. Otherwise it
comes back. -/
theorem offer_cases (service : Service α) (source : α) :
    (service.enabled = true ∧ service.phase ≠ .stopped ∧ service.published = none ∧
        service.offer source =
          .ok { service with phase := .running, published := some source }) ∨
      ¬ (service.enabled = true ∧ service.phase ≠ .stopped ∧ service.published = none) ∧
        service.offer source = .error source := by
  unfold offer publish
  rw [← Option.isNone_iff_eq_none]
  by_cases hOpen : service.enabled = true ∧ service.phase ≠ .stopped ∧
      service.published.isNone = true
  · rw [if_pos hOpen]
    exact .inl ⟨hOpen.1, hOpen.2.1, hOpen.2.2, rfl⟩
  · rw [if_neg hOpen]
    exact .inr ⟨hOpen, rfl⟩

end Service

/-- What is done with a service. Before every request the sources may change in any way. -/
inductive ServiceCall (α : Type) where
  | offer (source : α)
  | stop
  | handle (content : α → Source) (now : Micros) (requested : NameSet)

/-- A service, and what is kept of its answers. -/
structure ServiceRun (α : Type) where
  service : Service α
  cache : Option Cache

namespace ServiceRun

variable {α : Type}

/-- A service with which nothing was done yet. The room is the capacity and the time to live of the
cache, if it has one. -/
def start (enabled : Bool) (room : Option (Nat × Micros)) : ServiceRun α where
  service := { enabled }
  cache := room.map fun room => { capacity := room.1, ttl := room.2 }

def answer (run : ServiceRun α) (content : α → Source) (now : Micros) (requested : NameSet) :
    Handled :=
  run.service.handle (fun source => some (content source)) run.cache now requested

/-- A source that is refused changes nothing. -/
def step (run : ServiceRun α) : ServiceCall α → ServiceRun α
  | .offer source =>
    match run.service.offer source with
    | .ok service => { run with service }
    | .error _ => run
  | .stop => { run with service := run.service.stop }
  | .handle content now requested =>
    { run with cache := (run.answer content now requested).cache }

def after (run : ServiceRun α) (calls : List (ServiceCall α)) : ServiceRun α := calls.foldl step run

theorem after_concat (run : ServiceRun α) (calls : List (ServiceCall α)) (call : ServiceCall α) :
    run.after (calls ++ [call]) = (run.after calls).step call := List.foldl_append

theorem step_of_published {run : ServiceRun α} {source : α} {service : Service α}
    (hOffer : run.service.offer source = .ok service) :
    run.step (.offer source) = { run with service } := by
  rw [step, hOffer]

theorem step_of_refused {run : ServiceRun α} {source back : α}
    (hOffer : run.service.offer source = .error back) : run.step (.offer source) = run := by
  rw [step, hOffer]

/-- One of the calls offers this source, and it is published. -/
def Accepts (run : ServiceRun α) (calls : List (ServiceCall α)) (source : α) : Prop :=
  ∃ earlier later, calls = earlier ++ .offer source :: later ∧
    ∃ service, (run.after earlier).service.offer source = .ok service

variable {first run : ServiceRun α} {calls : List (ServiceCall α)} {source : α}

theorem accepts_concat (call : ServiceCall α) : first.Accepts (calls ++ [call]) source ↔
    first.Accepts calls source ∨ call = .offer source ∧
      ∃ service, (first.after calls).service.offer source = .ok service := by
  constructor
  · rintro ⟨earlier, later, hCalls, hOffer⟩
    rcases List.eq_nil_or_concat later with rfl | ⟨front, last, rfl⟩
    · obtain ⟨rfl, hLast⟩ := List.append_inj' hCalls rfl
      exact .inr ⟨List.singleton_inj.1 hLast, hOffer⟩
    · rw [List.concat_eq_append, ← List.cons_append, ← List.append_assoc] at hCalls
      exact .inl ⟨earlier, front, (List.append_inj' hCalls rfl).1, hOffer⟩
  · rintro (⟨earlier, later, rfl, hOffer⟩ | ⟨rfl, hOffer⟩)
    · exact ⟨earlier, later ++ [call], by simp, hOffer⟩
    · exact ⟨calls, [], rfl, hOffer⟩

theorem accepts_concat_other {call : ServiceCall α} (hOther : ∀ source, call ≠ .offer source) :
    first.Accepts (calls ++ [call]) source ↔ first.Accepts calls source := by
  rw [accepts_concat]
  exact or_iff_left fun hOffer => hOther source hOffer.1

/-! ### Answers -/

section

variable (content : α → Source) (now : Micros) (requested : NameSet)

theorem answer_of_disabled (hEnabled : run.service.enabled = false) :
    run.answer content now requested = ⟨.fatal notEnabledReason, run.cache, false⟩ := by
  simp [answer, Service.handle, Service.status, hEnabled]

theorem answer_of_idle (hEnabled : run.service.enabled = true)
    (hPhase : run.service.phase ≠ .running) :
    run.answer content now requested = ⟨.notReady, run.cache, false⟩ := by
  cases hFound : run.service.phase with
  | running => exact absurd hFound hPhase
  | starting | stopped => simp [answer, Service.handle, Service.status, hEnabled, hFound]

theorem answer_of_running (hEnabled : run.service.enabled = true)
    (hPhase : run.service.phase = .running) (hSource : run.service.published = some source) :
    run.answer content now requested = (content source).answer run.cache now requested := by
  simp [answer, Service.handle, Service.status, Service.runningSource, hEnabled, hPhase, hSource]

end

/-! ### What holds at every point -/

/-- The service is as far as the calls say, and what is kept was given by the source that was
accepted, when it was asked for the same groups. -/
structure Sound (enabled : Bool) (room : Option (Nat × Micros)) (calls : List (ServiceCall α))
    (run : ServiceRun α) : Prop where
  same : run.service.enabled = enabled
  published : ∀ source,
    run.service.published = some source ↔ (start enabled room).Accepts calls source
  stopped : run.service.phase = .stopped ↔ enabled = true ∧ .stop ∈ calls
  running : run.service.phase = .running → ∃ source, run.service.published = some source
  starting : run.service.phase = .starting → run.service.published = none
  bare : room = none → run.cache = none
  kept : ∀ cache, run.cache = some cache → ∀ entry ∈ cache.entries, ∃ source content now whole,
    run.service.published = some source ∧ .handle content now entry.key.groups ∈ calls ∧
      (content source).snapshot = .ok whole ∧ whole.generation = entry.key.generation ∧
      entry.snapshot = whole.restrict entry.key.groups

variable {enabled : Bool} {room : Option (Nat × Micros)}

theorem sound_start : Sound enabled room [] (start enabled room : ServiceRun α) where
  same := rfl
  published := by
    intro source
    constructor
    · intro hPublished
      cases hPublished
    · rintro ⟨earlier, later, hCalls, -⟩
      simp at hCalls
  stopped := by simp [start]
  running := nofun
  starting := fun _ => rfl
  bare := by
    rintro rfl
    rfl
  kept := by
    intro cache hCache entry hEntry
    obtain ⟨_, -, rfl⟩ := Option.map_eq_some_iff.1 hCache
    cases hEntry

/-- What is kept was given at one of the calls, and at one of more calls too. -/
theorem Sound.kept_concat (hSound : Sound enabled room calls run) (call : ServiceCall α) :
    ∀ cache, run.cache = some cache → ∀ entry ∈ cache.entries, ∃ source content now whole,
      run.service.published = some source ∧
        .handle content now entry.key.groups ∈ calls ++ [call] ∧
        (content source).snapshot = .ok whole ∧ whole.generation = entry.key.generation ∧
        entry.snapshot = whole.restrict entry.key.groups := by
  intro cache hCache entry hEntry
  obtain ⟨source, content, now, whole, hSource, hCall, hGiven⟩ :=
    hSound.kept cache hCache entry hEntry
  exact ⟨source, content, now, whole, hSource, List.mem_append_left _ hCall, hGiven⟩

theorem Sound.offer (hSound : Sound enabled room calls ((start enabled room).after calls))
    (source : α) : Sound enabled room (calls ++ [ServiceCall.offer source])
      (((start enabled room).after calls).step (.offer source)) := by
  have hStop : .stop ∈ calls ++ [ServiceCall.offer source] ↔ .stop ∈ calls := by simp
  have hAccepts := fun other => @accepts_concat α (start enabled room) calls other (.offer source)
  have hKept := hSound.kept_concat (.offer source)
  generalize (start enabled room).after calls = run at *
  rcases run.service.offer_cases source with ⟨hEnabled, hPhase, hNone, hOffer⟩ | ⟨hClosed, hOffer⟩
  · rw [step_of_published hOffer]
    refine ⟨hSound.same, fun other => ?_, ?_, fun _ => ⟨source, rfl⟩, nofun, hSound.bare, ?_⟩
    · rw [hAccepts, ← hSound.published, hNone]
      simp only [Option.some.injEq, reduceCtorEq, false_or, ServiceCall.offer.injEq]
      exact ⟨fun hSame => ⟨hSame, hSame ▸ ⟨_, hOffer⟩⟩, fun hSame => hSame.1⟩
    · rw [hStop]
      exact ⟨nofun, fun hStopped => absurd (hSound.stopped.2 hStopped) hPhase⟩
    · -- Nothing was kept yet, for nothing was published.
      intro cache hCache entry hEntry
      obtain ⟨_, _, _, _, hSource, -⟩ := hSound.kept cache hCache entry hEntry
      cases hNone.symm.trans hSource
  · rw [step_of_refused hOffer]
    refine ⟨hSound.same, fun other => ?_, ?_, hSound.running, hSound.starting, hSound.bare,
      hKept⟩
    · rw [hAccepts, ← hSound.published, iff_self_or]
      rintro ⟨hSame, service, hService⟩
      cases hSame
      cases hOffer.symm.trans hService
    · rw [hStop]
      exact hSound.stopped

theorem Sound.stop (hSound : Sound enabled room calls run) :
    Sound enabled room (calls ++ [ServiceCall.stop]) (run.step .stop) := by
  have hPublished : ∀ source, run.service.published = some source ↔
      (start enabled room).Accepts (calls ++ [ServiceCall.stop]) source := fun source =>
    (hSound.published source).trans (accepts_concat_other nofun).symm
  have hKept := hSound.kept_concat .stop
  have hEnabled := hSound.same
  unfold step Service.stop
  cases enabled with
  | true =>
      rw [if_pos hEnabled]
      exact ⟨hEnabled, hPublished, ⟨fun _ => ⟨rfl, by simp⟩, fun _ => rfl⟩, nofun, nofun,
        hSound.bare, hKept⟩
  | false =>
      rw [if_neg (by simp [hEnabled])]
      exact ⟨hEnabled, hPublished, hSound.stopped.trans (by simp), hSound.running,
        hSound.starting, hSound.bare, hKept⟩

/-- A service that runs has published a source, and answers from it. Any other one answers by
itself. -/
theorem Sound.answer_cases (hSound : Sound enabled room calls run) (content : α → Source)
    (now : Micros) (requested : NameSet) :
    (enabled = false ∧
        run.answer content now requested = ⟨.fatal notEnabledReason, run.cache, false⟩) ∨
      (enabled = true ∧ (run.service.published = none ∨ .stop ∈ calls) ∧
        run.answer content now requested = ⟨.notReady, run.cache, false⟩) ∨
      (enabled = true ∧ .stop ∉ calls ∧ ∃ source, run.service.published = some source ∧
        run.answer content now requested =
          (content source).answer run.cache now requested) := by
  cases enabled with
  | false => exact .inl ⟨rfl, answer_of_disabled content now requested hSound.same⟩
  | true =>
      refine .inr ?_
      cases hPhase : run.service.phase with
      | starting =>
          exact .inl ⟨rfl, .inl (hSound.starting hPhase),
            answer_of_idle content now requested hSound.same (by simp [hPhase])⟩
      | stopped =>
          exact .inl ⟨rfl, .inr (hSound.stopped.1 hPhase).2,
            answer_of_idle content now requested hSound.same (by simp [hPhase])⟩
      | running =>
          obtain ⟨source, hSource⟩ := hSound.running hPhase
          refine .inr ⟨rfl, fun hStop => ?_, source, hSource,
            answer_of_running content now requested hSound.same hPhase hSource⟩
          cases hPhase.symm.trans (hSound.stopped.2 ⟨rfl, hStop⟩)

theorem Sound.handle (hSound : Sound enabled room calls run) (content : α → Source) (now : Micros)
    (requested : NameSet) :
    Sound enabled room (calls ++ [ServiceCall.handle content now requested])
      (run.step (.handle content now requested)) := by
  have hKept := hSound.kept_concat (.handle content now requested)
  -- What is left of the cache was there before, and only a snapshot that was given is put in.
  have hBare : room = none → (run.answer content now requested).cache = none := by
    intro hRoom
    have hNone := hSound.bare hRoom
    rcases hSound.answer_cases content now requested with
      ⟨-, hAnswer⟩ | ⟨-, -, hAnswer⟩ | ⟨-, -, source, -, hAnswer⟩
    · rw [hAnswer, hNone]
    · rw [hAnswer, hNone]
    · rw [hAnswer, hNone]
      exact (content source).cache_answer_none now requested
  have hGiven : ∀ cache, (run.answer content now requested).cache = some cache →
      ∀ entry ∈ cache.entries, ∃ source content' now' whole, run.service.published = some source ∧
        .handle content' now' entry.key.groups ∈ calls ++ [.handle content now requested] ∧
        (content' source).snapshot = .ok whole ∧ whole.generation = entry.key.generation ∧
        entry.snapshot = whole.restrict entry.key.groups := by
    intro cache hCache entry hEntry
    rcases hSound.answer_cases content now requested with
      ⟨-, hAnswer⟩ | ⟨-, -, hAnswer⟩ | ⟨-, -, source, hSource, hAnswer⟩
    · rw [hAnswer] at hCache
      exact hKept cache hCache entry hEntry
    · rw [hAnswer] at hCache
      exact hKept cache hCache entry hEntry
    · rw [hAnswer] at hCache
      rcases (content source).answers_answer run.cache now requested |>.mem_cache hCache hEntry with
        ⟨held, hHeld, hOld⟩ | ⟨whole, hSnapshot, rfl⟩
      · exact hKept held hHeld entry hOld
      · exact ⟨source, content, now, whole, hSource, by simp, hSnapshot, rfl, rfl⟩
  exact ⟨hSound.same, fun source => (hSound.published source).trans (accepts_concat_other nofun).symm,
    hSound.stopped.trans (by simp), hSound.running, hSound.starting, hBare, hGiven⟩

theorem sound_after (enabled : Bool) (room : Option (Nat × Micros))
    (calls : List (ServiceCall α)) :
    Sound enabled room calls ((start enabled room).after calls) := by
  induction calls using List.reverseRecOn with
  | nil => exact sound_start
  | append_singleton calls call hSound =>
      rw [after_concat]
      cases call with
      | offer source => exact hSound.offer source
      | stop => exact hSound.stop
      | handle content now requested => exact hSound.handle content now requested

theorem Sound.published_none (hSound : Sound enabled room calls run) :
    run.service.published = none ↔ ∀ source, ¬ (start enabled room).Accepts calls source := by
  rw [Option.eq_none_iff_forall_ne_some]
  exact forall_congr' fun source => not_congr (hSound.published source)

theorem Sound.offer_ok (hSound : Sound enabled room calls run) (source : α) :
    (∃ service, run.service.offer source = .ok service) ↔
      enabled = true ∧ (∀ other, ¬ (start enabled room).Accepts calls other) ∧
        .stop ∉ calls := by
  rw [← hSound.published_none, ← hSound.same]
  have hStopped := hSound.stopped
  rcases run.service.offer_cases source with ⟨hEnabled, hPhase, hNone, hOffer⟩ | ⟨hClosed, hOffer⟩
  · rw [hOffer]
    refine ⟨fun _ => ⟨hEnabled, hNone, fun hStop => ?_⟩, fun _ => ⟨_, rfl⟩⟩
    exact hPhase (hStopped.2 ⟨hSound.same.symm.trans hEnabled, hStop⟩)
  · rw [hOffer]
    constructor
    · rintro ⟨service, hService⟩
      cases hService
    · rintro ⟨hEnabled, hNone, hStop⟩
      exact absurd ⟨hEnabled, fun hPhase => hStop (hStopped.1 hPhase).2, hNone⟩ hClosed

theorem enabled_of_accepts
    (hAccepts : (start enabled room).Accepts calls source) : enabled = true := by
  obtain ⟨earlier, later, rfl, hOffer⟩ := hAccepts
  exact ((sound_after enabled room earlier).offer_ok source |>.1 hOffer).1

theorem Sound.status_stopped (hSound : Sound enabled room calls run) :
    run.service.status = .stopped ↔ enabled = true ∧ .stop ∈ calls := by
  have hStopped := hSound.stopped
  rw [Service.status, hSound.same]
  cases enabled with
  | false => simp
  | true => rw [← hStopped]; cases run.service.phase <;> simp

theorem Sound.status_disabled (hSound : Sound enabled room calls run) :
    run.service.status = .disabled ↔ enabled = false := by
  rw [Service.status, hSound.same]
  cases enabled with
  | false => simp
  | true => cases run.service.phase <;> simp

/-- The outcome comes from this source. It is a snapshot that the source gives now, or one that it
gave at its present generation when the same groups were requested. Or the source fails now. -/
def ComesFrom (room : Option (Nat × Micros)) (calls : List (ServiceCall α)) (content : α → Source)
    (requested : NameSet) (source : α) (outcome : Outcome) : Prop :=
  (∃ whole, outcome = .ready (whole.restrict requested) ∧
    ((content source).snapshot = .ok whole ∨
      room.isSome = true ∧ whole.generation = (content source).generation ∧
        ∃ earlier now, .handle earlier now requested ∈ calls ∧
          (earlier source).snapshot = .ok whole)) ∨
  ∃ error, (content source).snapshot = .error error ∧ outcome = .failed error.message

theorem Sound.comesFrom (hSound : Sound enabled room calls run)
    (hSource : run.service.published = some source) (content : α → Source) (now : Micros)
    (requested : NameSet) : ComesFrom room calls content requested source
      ((content source).answer run.cache now requested).outcome := by
  have hAnswers := (content source).answers_answer run.cache now requested
  generalize (content source).answer run.cache now requested = handled at hAnswers
  cases hAnswers with
  | gives hSnapshot => exact .inl ⟨_, rfl, .inl hSnapshot⟩
  | fails hSnapshot => exact .inr ⟨_, hSnapshot, rfl⟩
  | @keeps held left entry hCache hEntry hKey =>
      obtain ⟨other, earlier, before, whole, hOther, hCall, hSnapshot, hGeneration, hGiven⟩ :=
        hSound.kept held hCache entry hEntry
      cases hSource.symm.trans hOther
      rw [hKey] at hCall hGeneration hGiven
      have hRoom : room.isSome = true := by
        rw [Option.isSome_iff_ne_none]
        intro hNone
        cases (hSound.bare hNone).symm.trans hCache
      exact .inl ⟨whole, by rw [hGiven],
        .inr ⟨hRoom, hGeneration, earlier, before, hCall, hSnapshot⟩⟩

theorem ComesFrom.ne {content : α → Source} {requested : NameSet} {outcome : Outcome}
    (hComes : ComesFrom room calls content requested source outcome) :
    outcome ≠ .notReady ∧ ∀ reason, outcome ≠ .fatal reason := by
  rcases hComes with ⟨whole, rfl, -⟩ | ⟨error, -, rfl⟩
  · exact ⟨nofun, nofun⟩
  · exact ⟨nofun, nofun⟩

theorem Sound.outcome (hSound : Sound enabled room calls run) (content : α → Source) (now : Micros)
    (requested : NameSet) :
    let outcome := (run.answer content now requested).outcome
    (∀ reason, outcome = .fatal reason ↔ enabled = false ∧ reason = notEnabledReason) ∧
    (outcome = .notReady ↔ enabled = true ∧
      ((∀ source, ¬ (start enabled room).Accepts calls source) ∨ .stop ∈ calls)) ∧
    ∀ source, (start enabled room).Accepts calls source → .stop ∉ calls →
      ComesFrom room calls content requested source outcome := by
  intro outcome
  rw [← hSound.published_none]
  have hOutcome : outcome = (run.answer content now requested).outcome := rfl
  clear_value outcome
  rcases hSound.answer_cases content now requested with
    ⟨rfl, hAnswer⟩ | ⟨rfl, hIdle, hAnswer⟩ | ⟨rfl, hStop, source, hSource, hAnswer⟩
  · rw [hAnswer] at hOutcome
    subst hOutcome
    refine ⟨fun reason => ?_, by simp, fun source hAccepts => ?_⟩
    · rw [Outcome.fatal.injEq, eq_comm]
      exact (and_iff_right rfl).symm
    · cases enabled_of_accepts hAccepts
  · rw [hAnswer] at hOutcome
    subst hOutcome
    refine ⟨fun reason => by simp, ⟨fun _ => ⟨rfl, hIdle⟩, fun _ => rfl⟩,
      fun source hAccepts hStop => ?_⟩
    rcases hIdle with hNone | hStopped
    · cases hNone.symm.trans ((hSound.published source).2 hAccepts)
    · exact absurd hStopped hStop
  · rw [hAnswer] at hOutcome
    subst hOutcome
    have hComes := hSound.comesFrom hSource content now requested
    refine ⟨fun reason => ?_, ?_, fun other hAccepts _ => ?_⟩
    · exact ⟨fun hFatal => absurd hFatal (hComes.ne.2 reason), by simp⟩
    · refine ⟨fun hIdle => absurd hIdle hComes.ne.1, ?_⟩
      rintro ⟨-, hNone | hStopped⟩
      · cases hNone.symm.trans hSource
      · exact absurd hStopped hStop
    · cases hSource.symm.trans ((hSound.published other).2 hAccepts)
      exact hComes

/-- An enabled service takes the first source that it is offered before it is stopped, and no other
one. Requests are answered from that source until then. A service that is stopped or disabled stays
so. -/
theorem published_once (enabled : Bool) (room : Option (Nat × Micros))
    (calls : List (ServiceCall α)) :
    let first : ServiceRun α := start enabled room
    let run := first.after calls
    (∀ source,
      ((∃ service, run.service.offer source = .ok service) ↔
        enabled = true ∧ (∀ other, ¬ first.Accepts calls other) ∧ .stop ∉ calls) ∧
      ((∀ service, run.service.offer source ≠ .ok service) →
        run.service.offer source = .error source ∧ run.step (.offer source) = run)) ∧
    (∀ source other, first.Accepts calls source → first.Accepts calls other → source = other) ∧
    (∀ content now requested, let outcome := (run.answer content now requested).outcome
      (∀ reason, outcome = .fatal reason ↔ enabled = false ∧ reason = notEnabledReason) ∧
      (outcome = .notReady ↔
        enabled = true ∧ ((∀ source, ¬ first.Accepts calls source) ∨ .stop ∈ calls)) ∧
      ∀ source, first.Accepts calls source → .stop ∉ calls →
        ComesFrom room calls content requested source outcome) ∧
    (run.service.status = .disabled ↔ enabled = false) ∧
    (run.service.status = .stopped ↔ enabled = true ∧ .stop ∈ calls) ∧
    ∀ later, (run.service.status = .disabled → (run.after later).service.status = .disabled) ∧
      (run.service.status = .stopped → (run.after later).service.status = .stopped) := by
  intro first run
  have hSound : Sound enabled room calls run := sound_after enabled room calls
  refine ⟨fun source => ⟨hSound.offer_ok source, fun hRefused => ?_⟩,
    fun source other hSource hOther => ?_, hSound.outcome,
    hSound.status_disabled, hSound.status_stopped, fun later => ?_⟩
  · rcases run.service.offer_cases source with ⟨-, -, -, hOffer⟩ | ⟨-, hOffer⟩
    · exact absurd hOffer (hRefused _)
    · exact ⟨hOffer, step_of_refused hOffer⟩
  · have hFirst := (hSound.published source).2 hSource
    exact Option.some.inj (hFirst.symm.trans ((hSound.published other).2 hOther))
  · have hLater : Sound enabled room (calls ++ later) (run.after later) := by
      have hAfter : run.after later = first.after (calls ++ later) := List.foldl_append.symm
      rw [hAfter]
      exact sound_after enabled room (calls ++ later)
    rw [hSound.status_disabled, hLater.status_disabled, hSound.status_stopped,
      hLater.status_stopped]
    exact ⟨id, fun ⟨hEnabled, hStop⟩ => ⟨hEnabled, List.mem_append_left later hStop⟩⟩

end ServiceRun

end ConfigExchange

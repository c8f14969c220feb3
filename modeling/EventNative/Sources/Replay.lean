import EventNative.Sources.Cluster

/-!
# The calls of the cluster run the functional dispatch loop

The cluster settles the answers of the lock keeper and of the pool one step at
a time, interleaved with every other call, task, reload and `Close`, and each
call logs the answers it got. For the collaborators that answer as that log
says, a call's aggregate error is the one `dispatch` computes over the
collections it has visited, in the order it visited them. The log is tied to
the cluster once: a task the pool took is queued, running, or has passed its
lock to `Unlock`, and the lock of a task the pool refused stays with the lock
keeper, carried by nobody.

## Implementation notes

A call visits each collection of its unit once, so its log answers each
collection once, and the collaborators built from it answer as functions of
their arguments, as `Collaborators` asks.
-/

namespace EventNative.Sources

open Drivers

variable {Drv Stg : Type}

/-- What a call's log says of it: the collections it has visited and those pending are the
entries of one driver map, and its error is the one its answers give. -/
structure Logged (x : Dispatching Drv Stg) : Prop where
  entries : ∃ m : GoMap Drv, (x.answers.map (·.1) ++ x.pending).Perm m.entries
  errors : x.errors =
    (x.answers.filterMap fun e => e.2.error x.sourceId e.1.1).foldl appendError none

/-- How an answer shows in the cluster: a task the pool took is queued or running, or its
lock has been passed to `Unlock`; the lock of a task the pool refused stays with the lock
keeper, and no task or call carries it. -/
def Answer.Seen (s : Cluster Drv Stg) : Answer → Prop
  | .lockFailed _ => True
  | .invokeFailed l _ => l ∈ s.locks ∧ l ∉ carried s
  | .invoked l => (∃ t ∈ s.tasks, t.2.lock = l) ∨ l ∈ s.unlocked

/-- Every answer a call of the cluster has logged shows in the cluster. -/
def AnswersSeen (s : Cluster Drv Stg) : Prop :=
  ∀ x ∈ s.calls, ∀ e ∈ x.answers, e.2.Seen s

section Answers

variable {answers : List ((String × Drv) × Answer)}

end Answers

section Steps

variable {x : Dispatching Drv Stg} {e : String × Drv} {rest : List (String × Drv)}

theorem Logged.next (hx : Logged x) (hp : x.pending = e :: rest) (a : Answer) :
    Logged (x.next e a) where
  entries := by
    obtain ⟨m, hm⟩ := hx.entries
    exact ⟨m, by simpa [hp] using hm⟩
  errors := by
    rw [Dispatching.next_answers, Dispatching.next_sourceId, List.filterMap_append,
      List.foldl_append, ← hx.errors]
    simp only [Dispatching.next, List.filterMap_cons, List.filterMap_nil]
    cases a.error x.sourceId e.1 <;> rfl

/-- An answer appended to a log whose answers all have a property keeps them all having it. -/
theorem next_answers {P : Answer → Prop} (hx : ∀ e' ∈ x.answers, P e'.2) {a : Answer}
    (ha : P a) : ∀ e' ∈ (x.next e a).answers, P e'.2 := by
  intro e' he'
  rcases List.mem_append.mp he' with he' | he'
  · exact hx e' he'
  · rw [List.mem_singleton.mp he']; exact ha

end Steps

section Runs

variable {F : Factory Drv} {exclusive : Bool} {s s' : Cluster Drv Stg}

theorem mem_calls {pre post : List (Dispatching Drv Stg)} {x : Dispatching Drv Stg}
    (hx : s.calls = pre ++ x :: post) : x ∈ s.calls := by
  simp [hx]

/-- A task that was in the pools is still there, or has passed its lock to `Unlock`. -/
theorem Step.task_or_unlocked (h : Step F exclusive s s') {l : Lock}
    (hl : (∃ t ∈ s.tasks, t.2.lock = l) ∨ l ∈ s.unlocked) :
    (∃ t ∈ s'.tasks, t.2.lock = l) ∨ l ∈ s'.unlocked := by
  cases h with
  | invokeOk =>
      rcases hl with ⟨t, ht, rfl⟩ | hl
      · exact .inl ⟨t, List.mem_append_left _ ht, rfl⟩
      · exact .inr hl
  | @finish pre post t outcome ht =>
      rcases hl with ⟨u, hu, rfl⟩ | hl
      · rw [ht, List.mem_append, List.mem_cons] at hu
        rcases hu with hu | rfl | hu
        · exact .inl ⟨u, List.mem_append_left _ hu, rfl⟩
        · exact .inr (List.mem_append_right _ (List.mem_singleton_self _))
        · exact .inl ⟨u, List.mem_append_right _ hu, rfl⟩
      · exact .inr (List.mem_append_left _ hl)
  | _ => exact hl

theorem Answer.Seen.step (hi : Inv exclusive s) (h : Step F exclusive s s') {a : Answer}
    (ha : a.Seen s) : a.Seen s' := by
  cases a with
  | lockFailed => trivial
  | invokeFailed l err => exact hi.orphan_step h ha.1 ha.2
  | invoked l => exact h.task_or_unlocked ha

/-- The lock a call holds is carried by it alone, so it is carried by nobody once the call
moves on. -/
theorem carried_next_held {pre post : List (Dispatching Drv Stg)} {x : Dispatching Drv Stg}
    {l : Lock} (hx : s.calls = pre ++ x :: post) (hh : x.held = some l) (e : String × Drv)
    (a : Answer) : (carried s).Perm (l :: carried { s with calls := pre ++ x.next e a :: post }) := by
  simp only [carried, hx, List.filterMap_append, filterMap_held_cons, hh, Dispatching.next_held,
    Option.toList_some, Option.toList_none, List.nil_append, List.singleton_append,
    ← List.append_assoc]
  exact List.perm_middle

theorem AnswersSeen.step (hi : Inv exclusive s) (ha : AnswersSeen s) (h : Step F exclusive s s') :
    AnswersSeen s' := by
  have hold : ∀ x ∈ s.calls, ∀ e ∈ x.answers, e.2.Seen s' :=
    fun x hx e he => (ha x hx e he).step hi h
  cases h with
  | start =>
      intro x hx
      rcases List.mem_append.mp hx with hx | hx
      · exact hold x hx
      · rw [List.mem_singleton.mp hx]; exact fun _ he => nomatch he
  | lockFail err hx => exact calls_update (hx ▸ hold) (next_answers (hold _ (mem_calls hx)) trivial)
  | lockOk hx => exact calls_update (hx ▸ hold) (hold _ (mem_calls hx) :)
  | invokeOk hx =>
      exact calls_update (hx ▸ hold) (next_answers (hold _ (mem_calls hx))
        (.inl ⟨_, List.mem_append_right _ (List.mem_singleton_self _), rfl⟩))
  | @invokeFail pre post x collection driver rest l err hx hp hh =>
      have hperm := carried_next_held hx hh (collection, driver) (.invokeFailed l err)
      exact calls_update (hx ▸ hold) (next_answers (hold _ (mem_calls hx))
        ⟨hi.carried_held l (hperm.symm.subset (List.mem_cons_self _ _)),
          (List.nodup_cons.mp (hperm.nodup_iff.mp hi.carried_nodup)).1⟩)
  | syncReturn hx =>
      exact fun y hy => hold y (hx ▸ ((List.sublist_cons_self _ _).append_left _).subset hy)
  | finish | reload | close => exact hold

end Runs

end EventNative.Sources

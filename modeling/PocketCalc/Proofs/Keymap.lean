import Mathlib.Algebra.GroupWithZero.Nat
import Mathlib.Data.List.Basic
import PocketCalc.Keymap

/-!
# The jump swallows nothing

The keyboard remembers one thing only, that a jump has begun, and any other key than that of the jump
makes it forget (`Keymap.resolveAll_cut`). So a sequence of keys falls apart at the other keys, each
of which does what it does on a fresh keyboard; and in a run of jump keys every second one jumps,
counted from the first of the run (`Keymap.resolveAll_run`).

A keyboard may also remember the key that waits, whichever it is, and look at the next key anew when
the two are no sequence (`Keymap.Waiting`). No other key than that of the jump ever waits, so the two
keyboards answer the same (`Keymap.Waiting.resolveAll_ofKeymap`).

**The law** (`Keymap.jump_swallows_nothing`): all of this, for every sequence of keys.
-/

namespace PocketCalc

/-- No key jumps by itself. -/
theorem Action.ofKey_ne_scrollToTop (key : Key) : ofKey key ≠ .scrollToTop := by
  cases key with
  | char c =>
    show ofChar c ≠ .scrollToTop
    unfold ofChar
    split
    case h_7 => cases Keystroke.ofSymbol? c <;> exact nofun
    all_goals exact nofun
  | _ => exact nofun

namespace Keymap

variable {key : Key}

/-! ## One key -/

theorem resolve_of_ne (m : Keymap) (other : key ≠ jumpKey) :
    m.resolve key = (.ofKey key, {}) := if_neg other

theorem resolve_jumpKey (m : Keymap) :
    m.resolve jumpKey = if m.jumping then (.scrollToTop, {}) else (.nothing, ⟨true⟩) := if_pos rfl

/-! ## Sequences of keys -/

/-- What the keyboard remembers after keys. -/
def after (m : Keymap) (keys : List Key) : Keymap := keys.foldl (fun m key => (m.resolve key).2) m

theorem length_resolveAll (m : Keymap) (keys : List Key) :
    (m.resolveAll keys).length = keys.length := by
  induction keys generalizing m with
  | nil => rfl
  | cons key rest ih => rw [resolveAll, List.length_cons, List.length_cons, ih]

theorem resolveAll_append (m : Keymap) (a b : List Key) :
    m.resolveAll (a ++ b) = m.resolveAll a ++ (m.after a).resolveAll b := by
  induction a generalizing m with
  | nil => rfl
  | cons key rest ih =>
    rw [List.cons_append, resolveAll, resolveAll, ih, List.cons_append]
    rfl

/-- **Any other key cuts a sequence in two**: nothing before it matters to the key, nor to what
comes behind. -/
theorem resolveAll_cut (m : Keymap) (front : List Key) (other : key ≠ jumpKey) (back : List Key) :
    m.resolveAll (front ++ key :: back) =
      m.resolveAll front ++ .ofKey key :: ({} : Keymap).resolveAll back := by
  rw [resolveAll_append, resolveAll, resolve_of_ne _ other]

/-- Where the last key was not that of the jump, no jump has begun. -/
theorem after_of_getLast? {keys : List Key} (h : keys.getLast? ≠ some jumpKey) :
    ({} : Keymap).after keys = {} := by
  rcases List.eq_nil_or_concat' keys with rfl | ⟨front, key, rfl⟩
  · rfl
  · have other : key ≠ jumpKey := by
      rintro rfl
      exact h List.getLast?_concat
    rw [after, List.foldl_append, List.foldl_cons, List.foldl_nil, resolve_of_ne _ other]

/-! ## Runs of the jump key -/

/-- Two jump keys on a fresh keyboard are a jump, and leave it fresh. -/
theorem resolveAll_pair (keys : List Key) :
    ({} : Keymap).resolveAll (jumpKey :: jumpKey :: keys) =
      .nothing :: .scrollToTop :: ({} : Keymap).resolveAll keys := rfl

/-- **In a run every second key jumps**, counted from the first. -/
theorem resolveAll_run : ∀ n i, i < n →
    (({} : Keymap).resolveAll (List.replicate n jumpKey))[i]? =
      some (if i % 2 = 0 then .nothing else .scrollToTop)
  | 1, 0, _ => rfl
  | n + 2, 0, _ => rfl
  | n + 2, 1, _ => rfl
  | n + 2, i + 2, h => by
    rw [List.replicate_succ, List.replicate_succ, resolveAll_pair, List.getElem?_cons_succ,
      List.getElem?_cons_succ, resolveAll_run n i (by omega), Nat.add_mod_right]

/-- A run has half as many jumps as keys. -/
theorem count_resolveAll_run : ∀ n,
    (({} : Keymap).resolveAll (List.replicate n jumpKey)).count .scrollToTop = n / 2
  | 0 => rfl
  | 1 => rfl
  | n + 2 => by
    rw [List.replicate_succ, List.replicate_succ, resolveAll_pair, List.count_cons_of_ne (by simp),
      List.count_cons_self, count_resolveAll_run n]
    omega

/-- **The jumps of a sequence** are those of its runs. If a jump has begun, the first run is longer by
the key that began it. -/
theorem count_resolveAll (m : Keymap) {keys run : List Key} {runs : List (List Key)}
    (h : keys.splitOnP (· != jumpKey) = run :: runs) :
    (m.resolveAll keys).count .scrollToTop =
      (run.length + m.jumping.toNat) / 2 + (runs.map (·.length / 2)).sum := by
  induction keys generalizing m run runs with
  | nil =>
    rw [List.splitOnP_nil] at h
    cases h
    cases m with
    | mk jumping => cases jumping <;> rfl
  | cons key rest ih =>
    obtain ⟨run', runs', hrest⟩ :=
      List.exists_cons_of_ne_nil (List.splitOnP_ne_nil (· != jumpKey) rest)
    rw [List.splitOnP_cons_eq_if_modifyHead, hrest] at h
    by_cases hkey : key = jumpKey
    · -- the run goes on, and every second of its keys jumps
      subst hkey
      rw [if_neg (by simp), List.modifyHead_cons] at h
      cases h
      rw [resolveAll, resolve_jumpKey]
      cases hjump : m.jumping with
      | false =>
        rw [if_neg (by simp), List.count_cons_of_ne (by simp), ih ⟨true⟩ hrest]
        rfl
      | true =>
        rw [if_pos rfl, List.count_cons_self, ih {} hrest, List.length_cons]
        simp only [Bool.toNat_true, Bool.toNat_false]
        omega
    · -- the key ends an empty run, and the next one begins on a fresh keyboard
      rw [if_pos (by simpa using hkey)] at h
      cases h
      rw [resolveAll, resolve_of_ne m hkey,
        List.count_cons_of_ne (Action.ofKey_ne_scrollToTop key), ih {} hrest]
      cases m.jumping <;> simp

/-! ## A keyboard that remembers a key -/

/-- **A memory of the key that waits** for the next one. -/
structure Waiting where
  pending : Option Key := none

namespace Waiting

/-- A key that none was waiting for. -/
def first (key : Key) : Action × Waiting :=
  if key = jumpKey then (.nothing, ⟨some key⟩) else (.ofKey key, {})

/-- The second key of a sequence. Two keys that are no sequence leave it to do what it does first. -/
def second (waiting key : Key) : Action × Waiting :=
  if waiting = jumpKey ∧ key = jumpKey then (.scrollToTop, {}) else first key

def resolve (w : Waiting) (key : Key) : Action × Waiting :=
  match w.pending with
  | some waiting => second waiting key
  | none => first key

def resolveAll (w : Waiting) : List Key → List Action
  | [] => []
  | key :: rest => (w.resolve key).1 :: (w.resolve key).2.resolveAll rest

/-- The key that waits when a jump has begun. -/
def ofKeymap (m : Keymap) : Waiting := ⟨if m.jumping then some jumpKey else none⟩

/-- **Of one key** both keyboards think the same, and no other key than that of the jump waits. -/
theorem resolve_ofKeymap (m : Keymap) (key : Key) :
    (ofKeymap m).resolve key = ((m.resolve key).1, ofKeymap (m.resolve key).2) := by
  by_cases hkey : key = jumpKey
  · subst hkey
    cases m with
    | mk jumping => cases jumping <;> rfl
  · rw [resolve_of_ne m hkey]
    cases m with
    | mk jumping =>
      cases jumping with
      | false => exact if_neg hkey
      | true => exact (if_neg fun both => hkey both.2).trans (if_neg hkey)

/-- **Both keyboards answer the same**, key by key. -/
theorem resolveAll_ofKeymap (m : Keymap) (keys : List Key) :
    (ofKeymap m).resolveAll keys = m.resolveAll keys := by
  induction keys generalizing m with
  | nil => rfl
  | cons key rest ih => rw [resolveAll, resolve_ofKeymap, ih, Keymap.resolveAll]

end Waiting

/-! ## Whole sequences -/

/-- **The jump swallows nothing.** Every key of a sequence gets an answer. A key other than that of
the jump gets the answer of a fresh keyboard, whatever came before it. In a run of jump keys with no
jump key before it the first does nothing, the second jumps, and so on in turn; so half as many jump
as there are keys in it, and all jumps of the sequence are those of its runs. A keyboard that
remembers the key that waits answers the same. -/
theorem jump_swallows_nothing (keys : List Key) :
    let actions := ({} : Keymap).resolveAll keys
    actions.length = keys.length ∧
      (∀ front key back, keys = front ++ key :: back → key ≠ jumpKey →
        actions[front.length]? = some (({} : Keymap).resolve key).1) ∧
      (∀ front n back, keys = front ++ List.replicate n jumpKey ++ back →
        front.getLast? ≠ some jumpKey →
          let run := (actions.drop front.length).take n
          (∀ i < n, run[i]? = some (if i % 2 = 0 then .nothing else .scrollToTop)) ∧
            run.count .scrollToTop = n / 2) ∧
      actions.count .scrollToTop =
        ((keys.splitOnP (· != jumpKey)).map fun run => run.length / 2).sum ∧
      ({} : Waiting).resolveAll keys = actions := by
  intro actions
  refine ⟨length_resolveAll {} keys, ?_, ?_, ?_, Waiting.resolveAll_ofKeymap {} keys⟩
  · intro front key back hkeys other
    have hactions := resolveAll_cut {} front other back
    rw [← hkeys] at hactions
    rw [resolve_of_ne {} other]
    show (({} : Keymap).resolveAll keys)[front.length]? = _
    rw [hactions, ← length_resolveAll {} front, List.getElem?_append_right (Nat.le_refl _),
      Nat.sub_self]
    rfl
  · intro front n back hkeys before
    have hrun : (actions.drop front.length).take n =
        ({} : Keymap).resolveAll (List.replicate n jumpKey) := by
      show ((({} : Keymap).resolveAll keys).drop front.length).take n = _
      rw [hkeys, List.append_assoc, resolveAll_append, after_of_getLast? before, resolveAll_append,
        List.drop_left' (length_resolveAll {} front),
        List.take_left' ((length_resolveAll _ _).trans List.length_replicate)]
    show (∀ i < n, ((actions.drop front.length).take n)[i]? = _) ∧
      ((actions.drop front.length).take n).count .scrollToTop = n / 2
    rw [hrun]
    exact ⟨resolveAll_run n, count_resolveAll_run n⟩
  · obtain ⟨run, runs, hruns⟩ :=
      List.exists_cons_of_ne_nil (List.splitOnP_ne_nil (· != jumpKey) keys)
    rw [count_resolveAll {} hruns, hruns, List.map_cons, List.sum_cons]
    rfl

/-- A jump that the digit breaks off, one that comes about, and one that only begins: of six presses
of the jump key two jump, and both other keys get through. -/
theorem jump_swallows_nothing_broken :
    let keys : List Key := "g5gggg+g".toList.map .char
    let actions := ({} : Keymap).resolveAll keys
    keys = [jumpKey] ++ .char '5' :: "gggg+g".toList.map .char ∧ .char '5' ≠ jumpKey ∧
      keys = [jumpKey, .char '5'] ++ List.replicate 4 jumpKey ++ [.char '+', jumpKey] ∧
      [jumpKey, .char '5'].getLast? ≠ some jumpKey ∧
      actions[1]? = some (.calculate (.digit '5')) ∧
      (actions.drop 2).take 4 = [.nothing, .scrollToTop, .nothing, .scrollToTop] ∧
      actions.count .scrollToTop = 2 := by
  intro keys actions
  have other : Key.char '5' ≠ jumpKey := by decide
  have before : [jumpKey, .char '5'].getLast? ≠ some jumpKey := by decide
  obtain ⟨-, digit, run, jumps, -⟩ := jump_swallows_nothing keys
  refine ⟨rfl, other, rfl, before, ?_, ?_, ?_⟩
  · exact digit [jumpKey] (.char '5') ("gggg+g".toList.map .char) rfl other
  · have hrun := (run [jumpKey, .char '5'] 4 [.char '+', jumpKey] rfl before).1
    refine List.ext_getElem? fun i => ?_
    match i with
    | 0 => exact hrun 0 (by decide)
    | 1 => exact hrun 1 (by decide)
    | 2 => exact hrun 2 (by decide)
    | 3 => exact hrun 3 (by decide)
    | n + 4 => rfl
  · exact jumps.trans rfl

end Keymap

end PocketCalc

import Ibssa.Lib.Walk

/-!
# A replica that may be behind

A replica is kept by patches, one for each new version of what it replicates. If
the comparison behind a patch is exact the replica is the newest version, and
`patch_walk_iff` is all there is to say. If it is not, the replica may hold a
value that is not the newest. Much is still certain, as long as a patch removes
what is gone and adds what is new: the replica has the keys of the newest
version, and each value was the right one at some time since which the key has
always been there (`Held`). What a value has to do with the one in the version is
left open (`carried`), as a patch may change it on the way.
-/

namespace Keyed

variable {K V W : Type}

/-- The newest version comes first, and there is nothing before the first one. -/
def newest (versions : List (K → Option V)) : K → Option V := versions.head?.getD fun _ => none

/-- A value that was taken from a version, and kept since. -/
inductive Held (carried : W → V → Prop) (k : K) (w : W) : List (K → Option V) → Prop
  | taken {f : K → Option V} {v : V} (versions : List (K → Option V)) (hf : f k = some v)
      (hw : carried w v) : Held carried k w (f :: versions)
  | kept {f : K → Option V} {versions : List (K → Option V)} (hf : (f k).isSome = true)
      (h : Held carried k w versions) : Held carried k w (f :: versions)

structure Behind (carried : W → V → Prop) (versions : List (K → Option V)) (c : K → Option W) :
    Prop where
  keys : ∀ k, (c k).isSome = (newest versions k).isSome
  held : ∀ k w, c k = some w → Held carried k w versions

section Behind

variable {carried : W → V → Prop} {versions : List (K → Option V)} {c : K → Option W}
  {f : K → Option V}

theorem behind_nil : Behind carried ([] : List (K → Option V)) (fun _ => none) :=
  ⟨fun _ => rfl, fun _ _ h => by cases h⟩

/-- A version with the same keys may go by unnoticed. -/
theorem Behind.ignore (h : Behind carried versions c)
    (hsame : ∀ k, (newest versions k).isSome = (f k).isSome) :
    Behind carried (f :: versions) c := by
  refine ⟨fun k => (h.keys k).trans (hsame k), fun k w hk => ?_⟩
  refine Held.kept ?_ (h.held k w hk)
  rw [← hsame k, ← h.keys k, hk]
  rfl

/-- A patch that removes what is gone and adds what is new. -/
theorem Behind.patch {removed : K → Bool} {added : K → Option W}
    (h : Behind carried versions c)
    (hadded : ∀ k w, added k = some w → ∃ v, f k = some v ∧ carried w v)
    (hgone : ∀ k, added k = none → removed k = true → f k = none)
    (hstay : ∀ k, added k = none → removed k = false →
      (newest versions k).isSome = (f k).isSome) :
    Behind carried (f :: versions) (patch c removed added) := by
  have hval : ∀ k, Keyed.patch c removed added k = (added k).or (if removed k then none else c k) :=
    fun _ => rfl
  refine ⟨fun k => ?_, fun k w hk => ?_⟩
  · show (Keyed.patch c removed added k).isSome = (f k).isSome
    rw [hval]
    cases ha : added k with
    | some w =>
        obtain ⟨v, hv, _⟩ := hadded k w ha
        rw [hv]
        rfl
    | none =>
        cases hr : removed k with
        | true =>
            rw [hgone k ha hr]
            rfl
        | false => exact (h.keys k).trans (hstay k ha hr)
  · rw [hval] at hk
    cases ha : added k with
    | some w' =>
        rw [ha] at hk
        obtain rfl : w' = w := Option.some.inj hk
        obtain ⟨v, hv, hw⟩ := hadded k w' ha
        exact Held.taken versions hv hw
    | none =>
        rw [ha] at hk
        cases hr : removed k with
        | true =>
            rw [hr] at hk
            cases hk
        | false =>
            rw [hr] at hk
            have hc : c k = some w := hk
            refine Held.kept ?_ (h.held k w hc)
            rw [← hstay k ha hr, ← h.keys k, hc]
            rfl

end Behind

end Keyed

/-!
# Computations that may fail

* `bind_eq_ok`, `map_eq_ok`, `mapError_eq_ok`: a computation of several steps has a result when each step has
  one; `error_of_map`, `error_of_bind`, `error_of_mapError`: its fault is the fault of one of them;
* `Alike`: two computations that go the same way, up to a relation of their results. Step by step they stay
  alike (`Alike.bind`, `Alike.map`).
-/

namespace Dripline

variable {ε β γ : Type}

theorem bind_eq_ok {x : Except ε β} {f : β → Except ε γ} {c : γ} (h : x.bind f = .ok c) :
    ∃ b, x = .ok b ∧ f b = .ok c := by
  cases x with
  | error e => cases h
  | ok b => exact ⟨b, rfl, h⟩

theorem eq_ok_of_toOption {x : Except ε β} {b : β} (h : x.toOption = some b) : x = .ok b := by
  cases x with
  | error e => cases h
  | ok b' =>
    cases h
    rfl

theorem map_eq_ok {x : Except ε β} {f : β → γ} {c : γ} (h : x.map f = .ok c) :
    ∃ b, x = .ok b ∧ f b = c := by
  cases x with
  | error e => cases h
  | ok b =>
    cases h
    exact ⟨b, rfl, rfl⟩

theorem mapError_eq_ok {x : Except ε β} {f : ε → γ} {b : β} (h : x.mapError f = .ok b) : x = .ok b := by
  cases x with
  | error e => cases h
  | ok b' =>
    cases h
    rfl

theorem error_of_map {x : Except ε β} {f : β → γ} {e : ε} (h : x.map f = .error e) : x = .error e := by
  cases x with
  | error e' =>
    cases h
    rfl
  | ok b => cases h

theorem error_of_bind {x : Except ε β} {f : β → Except ε γ} {e : ε} (h : x.bind f = .error e) :
    x = .error e ∨ ∃ b, x = .ok b ∧ f b = .error e := by
  cases x with
  | error e' =>
    cases h
    exact .inl rfl
  | ok b => exact .inr ⟨b, rfl, h⟩

theorem error_of_mapError {x : Except ε β} {f : ε → γ} {e : γ} (h : x.mapError f = .error e) :
    ∃ e', x = .error e' ∧ f e' = e := by
  cases x with
  | error e' =>
    cases h
    exact ⟨e', rfl, rfl⟩
  | ok b => cases h

/-- Two computations with the same fault, or with results that are related. -/
inductive Alike (r : β → γ → Prop) : Except ε β → Except ε γ → Prop where
  | results {b : β} {c : γ} (h : r b c) : Alike r (.ok b) (.ok c)
  | faults (e : ε) : Alike r (.error e) (.error e)

namespace Alike

variable {r : β → γ → Prop} {x : Except ε β} {y : Except ε γ}

theorem bind {β' γ' : Type} {s : β' → γ' → Prop} {f : β → Except ε β'} {g : γ → Except ε γ'}
    (h : Alike r x y) (hnext : ∀ b c, r b c → Alike s (f b) (g c)) : Alike s (x.bind f) (y.bind g) := by
  cases h with
  | results hrel => exact hnext _ _ hrel
  | faults e => exact .faults e

theorem map {β' γ' : Type} {s : β' → γ' → Prop} {f : β → β'} {g : γ → γ'} (h : Alike r x y)
    (hnext : ∀ b c, r b c → s (f b) (g c)) : Alike s (x.map f) (y.map g) := by
  cases h with
  | results hrel => exact .results (hnext _ _ hrel)
  | faults e => exact .faults e

theorem exists_of_ok {c : γ} (h : Alike r x y) (hy : y = .ok c) : ∃ b, x = .ok b ∧ r b c := by
  cases h with
  | results hrel =>
    cases hy
    exact ⟨_, rfl, hrel⟩
  | faults e => cases hy

theorem error_iff (h : Alike r x y) (e : ε) : x = .error e ↔ y = .error e := by
  cases h with
  | results hrel => exact ⟨fun hx => (nomatch hx), fun hy => (nomatch hy)⟩
  | faults e' => simp

end Alike

end Dripline

import Afanctl.Lib.Result

/-!
Loops that read a list by a cursor.

A turn of the loop is given the element at the cursor and the ones behind it, and may take
the first of those too. What a loop reads is a sequence of items, each one or two elements
long, and its result is the items' effects one after another: `cursorLoop_ok_iff` says so
of a loop if its turns do. What such effects leave in a field is `foldl_last`, where an item
sets it, `foldl_collect`, where an item appends to it, and `foldl_any`, where an item can only
raise it.
-/

namespace Afanctl.Lib

variable {ε σ α ι β : Type}

/-- A turn gives the next state and whether it took the element after its own. `skip` stands
on an element that has been taken. -/
def cursorLoop (step : σ → α → List α → Except ε (σ × Bool)) : σ → Bool → List α → Except ε σ
  | s, _, [] => .ok s
  | s, true, _ :: rest => cursorLoop step s false rest
  | s, false, a :: rest => do
      let (s, took) ← step s a rest
      cursorLoop step s took rest

section Loop

variable {step : σ → α → List α → Except ε (σ × Bool)}

theorem cursorLoop_true (s : σ) (rest : List α) :
    cursorLoop step s true rest = cursorLoop step s false rest.tail := by
  cases rest with
  | nil => rfl
  | cons a rest => rfl

/-- A loop fails with what its turns fail with. -/
theorem cursorLoop_failsWith {P : ε → Prop} (turns : ∀ s a rest, FailsWith P (step s a rest))
    (args : List α) (s : σ) (skip : Bool) : FailsWith P (cursorLoop step s skip args) := by
  induction args generalizing s skip with
  | nil => exact failsWith_ok s
  | cons a rest ih =>
      cases skip with
      | true => exact ih s false
      | false => exact (turns s a rest).bind fun (t, took) => ih t took

/-- The turns of a loop read one item each. -/
structure Reads (step : σ → α → List α → Except ε (σ × Bool)) (Item : ι → Prop)
    (words : ι → List α) (set : σ → ι → σ) : Prop where
  sound : ∀ {s a rest t took}, step s a rest = .ok (t, took) → ∃ item, Item item ∧
    a :: rest = words item ++ (if took then rest.tail else rest) ∧ t = set s item
  complete : ∀ {item}, Item item → ∀ s tail, ∃ a rest took, words item ++ tail = a :: rest ∧
    step s a rest = .ok (set s item, took) ∧ (if took then rest.tail else rest) = tail

variable {Item : ι → Prop} {words : ι → List α} {set : σ → ι → σ}

theorem cursorLoop_cons (s : σ) (a : α) (rest : List α) :
    cursorLoop step s false (a :: rest) = (do
      let (t, took) ← step s a rest
      cursorLoop step t false (if took then rest.tail else rest)) := by
  rw [cursorLoop]
  refine congrArg _ (funext fun (t, took) => ?_)
  cases took with
  | true => exact cursorLoop_true t rest
  | false => rfl

/-- What a loop succeeds on is a sequence of items. -/
theorem items_of_cursorLoop (reads : Reads step Item words set) {args : List α} {s t : σ}
    (result : cursorLoop step s false args = .ok t) :
    ∃ items : List ι, (∀ item ∈ items, Item item) ∧ args = items.flatMap words ∧
      t = items.foldl set s := by
  induction length : args.length using Nat.strongRecOn generalizing args s with
  | _ n ih =>
    cases args with
    | nil =>
        cases result
        exact ⟨[], by simp, rfl, rfl⟩
    | cons a rest =>
        rw [cursorLoop_cons] at result
        obtain ⟨⟨u, took⟩, turn, result⟩ := bind_ok_iff.mp result
        obtain ⟨item, isItem, here, rfl⟩ := reads.sound turn
        have shorter : (if took then rest.tail else rest).length < n := by
          rw [← length, List.length_cons]
          split
          · rw [List.length_tail]
            omega
          · exact Nat.lt_succ_self _
        obtain ⟨items, areItems, behind, rfl⟩ := ih _ shorter result rfl
        refine ⟨item :: items, ?_, ?_, rfl⟩
        · simp only [List.forall_mem_cons]
          exact ⟨isItem, areItems⟩
        · rw [here, behind, List.flatMap_cons]

/-- A loop takes a sequence of items to their effects. -/
theorem cursorLoop_items (reads : Reads step Item words set) {items : List ι}
    (areItems : ∀ item ∈ items, Item item) (s : σ) :
    cursorLoop step s false (items.flatMap words) = .ok (items.foldl set s) := by
  induction items generalizing s with
  | nil => rfl
  | cons item items ih =>
      obtain ⟨a, rest, took, here, turn, behind⟩ :=
        reads.complete (areItems item List.mem_cons_self) s (items.flatMap words)
      have onward := ih (fun item mem => areItems item (List.mem_cons_of_mem _ mem)) (set s item)
      rw [← behind] at onward
      rw [List.flatMap_cons, here, cursorLoop_cons]
      exact bind_ok_iff.mpr ⟨_, turn, onward⟩

/-- A loop succeeds exactly on the sequences of items, with their effects in order. -/
theorem cursorLoop_ok_iff (reads : Reads step Item words set) {args : List α} {s t : σ} :
    cursorLoop step s false args = .ok t ↔
      ∃ items : List ι, (∀ item ∈ items, Item item) ∧ args = items.flatMap words ∧
        t = items.foldl set s := by
  constructor
  · exact items_of_cursorLoop reads
  · rintro ⟨items, areItems, rfl, rfl⟩
    exact cursorLoop_items reads areItems s

end Loop

/-! ### Effects in order -/

variable {set : σ → ι → σ}

/-- A field that items set has the last value they give it. -/
theorem foldl_last {f : σ → Option β} {value : ι → Option β}
    (sets : ∀ s item, f (set s item) = (value item).or (f s)) (items : List ι) (s : σ) :
    f (items.foldl set s) = (items.filterMap value).getLast?.or (f s) := by
  induction items generalizing s with
  | nil => rfl
  | cons item items ih =>
      rw [List.foldl_cons, ih, sets, List.filterMap_cons]
      cases value item with
      | none => rfl
      | some b =>
          rw [List.getLast?_cons]
          cases (items.filterMap value).getLast? with
          | none => rfl
          | some last => rfl

/-- `foldl_last` for a field that always has a value. -/
theorem foldl_last_getD {f : σ → β} {value : ι → Option β}
    (sets : ∀ s item, f (set s item) = (value item).getD (f s)) (items : List ι) (s : σ) :
    f (items.foldl set s) = (items.filterMap value).getLast?.getD (f s) := by
  have step (s : σ) (item : ι) : some (f (set s item)) = (value item).or (some (f s)) := by
    rw [sets, Option.or_some]
  have latest := foldl_last (f := fun s => some (f s)) step items s
  rwa [Option.or_some, Option.some_inj] at latest

/-- A list that items append to has their elements in order. -/
theorem foldl_collect {f : σ → List β} {value : ι → Option β}
    (sets : ∀ s item, f (set s item) = f s ++ (value item).toList) (items : List ι) (s : σ) :
    f (items.foldl set s) = f s ++ items.filterMap value := by
  induction items generalizing s with
  | nil => rw [List.foldl_nil, List.filterMap_nil, List.append_nil]
  | cons item items ih =>
      rw [List.foldl_cons, ih, sets, List.filterMap_cons, List.append_assoc]
      cases value item with
      | none => rfl
      | some b => rfl

/-- A field that items raise is raised if one of them does. -/
theorem foldl_any {f : σ → Bool} {raises : ι → Bool}
    (sets : ∀ s item, f (set s item) = (raises item || f s)) (items : List ι) (s : σ) :
    f (items.foldl set s) = (items.any raises || f s) := by
  induction items generalizing s with
  | nil => rfl
  | cons item items ih =>
      rw [List.foldl_cons, ih, sets, List.any_cons, ← Bool.or_assoc,
        Bool.or_comm (items.any raises)]

end Afanctl.Lib

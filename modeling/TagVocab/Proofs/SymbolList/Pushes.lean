import TagVocab.Proofs.SymbolList

/-!
# Runs of pushes

What each push of a run answers, and what the run leaves. A push either finds its name among the seen
ones and changes nothing, or lists it under the next ordinal and marks it as seen. By induction over
the run the seen names are those that were pushed, and a push answers whether its name is new to the
run.
-/

namespace TagVocab.SymbolList

def pushEach (l : SymbolList) : List String → List Bool × SymbolList
  | [] => ([], l)
  | name :: names =>
    let (added, l) := l.push name
    let (answers, l) := l.pushEach names
    (added :: answers, l)

theorem pushEach_snd (l : SymbolList) (names : List String) :
    (l.pushEach names).2 = l.pushAll names := by
  induction names generalizing l with
  | nil => rfl
  | cons name names ih => exact ih (l.push name).2

theorem length_pushEach_fst (l : SymbolList) (names : List String) :
    (l.pushEach names).1.length = names.length := by
  induction names generalizing l with
  | nil => rfl
  | cons name names ih => exact congrArg (· + 1) (ih (l.push name).2)

theorem getElem?_pushEach_fst (l : SymbolList) (names : List String) (i : Nat) :
    (l.pushEach names).1[i]? =
      names[i]?.map fun name => ((l.pushAll (names.take i)).push name).1 := by
  induction names generalizing l i with
  | nil => rfl
  | cons name names ih =>
    cases i with
    | zero => rfl
    | succ i => exact ih (l.push name).2 i

theorem pushAll_take_succ (l : SymbolList) {names : List String} {i : Nat} {name : String}
    (h : names[i]? = some name) :
    l.pushAll (names.take (i + 1)) = ((l.pushAll (names.take i)).push name).2 := by
  rw [List.take_add_one, h, pushAll_append]
  rfl

/-- `longer` has one more symbol than `l`: `name`, under the next ordinal. -/
structure Adds (l : SymbolList) (name : String) (longer : SymbolList) : Prop where
  space_eq : longer.space = l.space
  toList_eq : longer.toList = l.toList ++ [⟨name, l.space, l.size⟩]
  mem_seen_iff : ∀ other, other ∈ longer.seen ↔ other ∈ l.seen ∨ other = name

theorem push_cases (l : SymbolList) (name : String) :
    (name ∈ l.seen ∧ l.push name = (false, l)) ∨
      (name ∉ l.seen ∧ ∃ longer, l.push name = (true, longer) ∧ l.Adds name longer) := by
  by_cases h : name ∈ l.seen
  · exact .inl ⟨h, dif_pos h⟩
  · have hanswer : (l.push name).1 = true := by rw [push, dif_neg h]
    have hseen : (l.push name).2.seen = l.seen.insert name := by rw [push, dif_neg h]
    refine .inr ⟨h, (l.push name).2, Prod.ext hanswer rfl, l.space_push name, ?_, ?_⟩
    · rw [toList_push]
      exact if_neg (h ∘ (l.mem_seen name).mpr)
    · intro other
      rw [hseen, Std.HashSet.mem_insert, beq_iff_eq, or_comm, eq_comm]

/-- What is true of a list of `space` that was empty before just `pushed` was pushed onto it, besides
its names, which are left to `names_pushAll_empty`. -/
structure Records (l : SymbolList) (space : SymbolSpace) (pushed : List String) : Prop where
  space_eq : l.space = space
  mem_seen_iff : ∀ name, name ∈ l.seen ↔ name ∈ pushed

theorem records_empty (space : SymbolSpace) : (empty space).Records space [] where
  space_eq := rfl
  mem_seen_iff := by simp [empty]

namespace Records

variable {l : SymbolList} {space : SymbolSpace} {pushed : List String}

theorem of_adds (h : l.Records space pushed) {name : String} {longer : SymbolList}
    (hadds : l.Adds name longer) : longer.Records space (pushed ++ [name]) where
  space_eq := hadds.space_eq.trans h.space_eq
  mem_seen_iff other := by
    rw [hadds.mem_seen_iff, h.mem_seen_iff, List.mem_append, List.mem_singleton]

theorem of_mem (h : l.Records space pushed) {name : String} (hname : name ∈ pushed) :
    l.Records space (pushed ++ [name]) where
  space_eq := h.space_eq
  mem_seen_iff other := by
    rw [h.mem_seen_iff, List.mem_append, List.mem_singleton]
    exact ⟨Or.inl, fun ho => ho.elim id fun heq => heq ▸ hname⟩

theorem push_cases (h : l.Records space pushed) (name : String) :
    (name ∈ pushed ∧ l.push name = (false, l)) ∨
      (name ∉ pushed ∧ ∃ longer, l.push name = (true, longer) ∧ l.Adds name longer) := by
  rw [← h.mem_seen_iff]
  exact l.push_cases name

theorem push (h : l.Records space pushed) (name : String) :
    (l.push name).2.Records space (pushed ++ [name]) := by
  rcases h.push_cases name with ⟨hname, heq⟩ | ⟨-, longer, heq, hadds⟩
  · rw [heq]
    exact h.of_mem hname
  · rw [heq]
    exact h.of_adds hadds

theorem pushAll (h : l.Records space pushed) (names : List String) :
    (l.pushAll names).Records space (pushed ++ names) := by
  induction names generalizing l pushed with
  | nil => simpa [SymbolList.pushAll] using h
  | cons name names ih =>
    have hp := ih (h.push name)
    rw [List.append_assoc] at hp
    exact hp

end Records

theorem records_pushAll_empty (space : SymbolSpace) (names : List String) :
    ((empty space).pushAll names).Records space names :=
  (records_empty space).pushAll names

theorem pushEach_cases (space : SymbolSpace) {names : List String} {i : Nat} {name : String}
    (h : names[i]? = some name) :
    (name ∈ names.take i ∧ ((empty space).pushEach names).1[i]? = some false ∧
      (empty space).pushAll (names.take (i + 1)) = (empty space).pushAll (names.take i)) ∨
    (name ∉ names.take i ∧ ((empty space).pushEach names).1[i]? = some true ∧
      ((empty space).pushAll (names.take i)).Adds name
        ((empty space).pushAll (names.take (i + 1)))) := by
  rw [getElem?_pushEach_fst, h, Option.map_some, pushAll_take_succ _ h]
  rcases (records_pushAll_empty space (names.take i)).push_cases name with
    ⟨hname, heq⟩ | ⟨hname, longer, heq, hadds⟩
  · rw [heq]
    exact .inl ⟨hname, rfl, rfl⟩
  · rw [heq]
    exact .inr ⟨hname, rfl, hadds⟩

/-- What pushing `names` onto an empty list of `space` comes to, in what the pushes answered and in the
list that they left. -/
structure ListsFirsts (space : SymbolSpace) (names : List String) (answers : List Bool)
    (l : SymbolList) : Prop where
  space_eq : l.space = space
  names_eq : l.toList.map (·.name) = names.eraseDups
  placed : ∀ (i : Nat) symbol, l.toList[i]? = some symbol → symbol.ordinal = i ∧ symbol.space = space
  nodup : (l.toList.map (·.name)).Nodup
  mem_seen_iff : ∀ name, name ∈ l.seen ↔ name ∈ l.toList.map (·.name)
  length_answers : answers.length = names.length
  answer_iff : ∀ (i : Nat) name, names[i]? = some name →
    (answers[i]? = some true ↔ name ∉ names.take i)
  kept : ∀ (i : Nat) name, names[i]? = some name → answers[i]? = some false →
    (empty space).pushAll (names.take (i + 1)) = (empty space).pushAll (names.take i)
  added : ∀ (i : Nat) name, names[i]? = some name → answers[i]? = some true →
    ((empty space).pushAll (names.take i)).Adds name ((empty space).pushAll (names.take (i + 1)))

/-- A run of pushes onto an empty list leaves the first occurrences of the pushed names, each at its
ordinal, and has seen no other names. A push answers whether its name is none of the earlier ones. If
it is one of them, the list stays as it was. -/
theorem pushEach_listsFirsts (space : SymbolSpace) (names : List String) :
    ListsFirsts space names ((empty space).pushEach names).1 ((empty space).pushEach names).2 := by
  have h := records_pushAll_empty space names
  have hnames := names_pushAll_empty space names
  rw [pushEach_snd]
  constructor
  case space_eq => exact h.space_eq
  case names_eq => rw [map_name_toList, hnames]
  case placed =>
    intro i symbol hi
    have hplaced := ((empty space).pushAll names).placed i symbol hi
    rwa [h.space_eq] at hplaced
  case nodup =>
    rw [map_name_toList]
    exact names_nodup _
  case mem_seen_iff =>
    intro name
    rw [h.mem_seen_iff, map_name_toList, hnames, List.mem_eraseDups]
  case length_answers => exact length_pushEach_fst _ names
  case answer_iff =>
    intro i name hi
    rcases pushEach_cases space hi with ⟨hold, hanswer, -⟩ | ⟨hnew, hanswer, -⟩
    · simp [hanswer, hold]
    · simp [hanswer, hnew]
  case kept =>
    intro i name hi hfalse
    rcases pushEach_cases space hi with ⟨-, -, hkept⟩ | ⟨-, hanswer, -⟩
    · exact hkept
    · simp [hanswer] at hfalse
  case added =>
    intro i name hi htrue
    rcases pushEach_cases space hi with ⟨-, hanswer, -⟩ | ⟨-, -, hadds⟩
    · simp [hanswer] at htrue
    · exact hadds

end TagVocab.SymbolList

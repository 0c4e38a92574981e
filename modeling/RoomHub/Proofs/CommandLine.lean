import RoomHub.CommandLine.Basic
import RoomHub.Proofs.Json.Scalars

/-!
# Command lines that are accepted

Values may be given to switches one after the other, each in one argument with its switch
(`giving`).  Such a command line is accepted if every value suits its switch and no switch is used
twice that may be used only once (`Acceptable`); what is then known is what was given
(`takeAll_giving`).  So any list of origins and any capacity of 64 bits can be asked for
(`read_asking`).
-/

namespace RoomHub

namespace Text

/-- Digits are read as the number that they denote. -/
theorem readDigits_of_isDigit {limit : Nat} {beyond : IntegerFault} {ds : List Char}
    (digits : ∀ c ∈ ds, c.isDigit = true) {n : Nat} (fits : Nat.ofDigitChars 10 ds n ≤ limit) :
    readDigits limit beyond n ds = .ok (Nat.ofDigitChars 10 ds n) := by
  induction ds generalizing n with
  | nil => rfl
  | cons c ds ih =>
    have first := digits c List.mem_cons_self
    rw [Nat.ofDigitChars_cons] at fits ⊢
    have small := Json.le_ofDigitChars ds (10 * n + (c.toNat - '0'.toNat))
    rw [readDigits, if_pos first]
    exact (if_neg (Nat.not_lt.2 (Nat.le_trans small fits))).trans
      (ih (fun d mem => digits d (List.mem_cons_of_mem c mem)) fits)

/-- Every number of 64 bits is read as it is written. -/
theorem readUnsigned_repr {n : Nat} (small : n < Decimal.twoTo 64) :
    readUnsigned n.repr = .ok n := by
  have digits : ∀ c ∈ Nat.toDigits 10 n, c.isDigit = true :=
    fun c => Nat.isDigit_of_mem_toDigits (by decide) (by decide)
  have value : Nat.ofDigitChars 10 (Nat.toDigits 10 n) 0 = n := Nat.ofDigitChars_ten_toDigits
  have nonempty : Nat.toDigits 10 n ≠ [] := Nat.toDigits_ne_nil
  unfold readUnsigned
  rw [Nat.toList_repr]
  generalize Nat.toDigits 10 n = ds at digits value nonempty
  have read : readNumber (Decimal.twoTo 64 - 1) .tooLarge ds = .ok n := by
    have fits : Nat.ofDigitChars 10 ds 0 ≤ Decimal.twoTo 64 - 1 := by
      rw [value]
      exact Nat.le_sub_one_of_lt small
    rw [readNumber, if_neg (by simpa using nonempty), readDigits_of_isDigit digits fits, value]
  split
  · exact absurd rfl nonempty
  · exact absurd (digits '+' List.mem_cons_self) (by decide)
  · exact read

end Text

namespace CommandLine

/-- The argument that gives a switch a value. -/
def giving (x : Switch × String) : String := "--" ++ x.1.name ++ "=" ++ x.2

theorem Switch.ofName?_name (s : Switch) : Switch.ofName? s.name = some s := by
  cases s <;> decide

theorem toList_giving (x : Switch × String) :
    (giving x).toList = '-' :: '-' :: (x.1.name.toList ++ '=' :: x.2.toList) := by
  simp [giving]

/-- No name of a switch has an equals sign in it. -/
theorem Switch.all_name (s : Switch) : s.name.toList.all (· ≠ '=') = true := by
  cases s <;> decide

namespace Progress

variable {p : Progress} {s t : Switch} {value : String}

/-- What is known when a switch has one value more. -/
def learn (p : Progress) (s : Switch) (value : String) : Progress :=
  { p.use s with values := p.values ++ [(s, value)] }

theorem mem_used_learn : t ∈ (p.learn s value).used ↔ t ∈ p.used ∨ t = s := by
  unfold learn use
  split_ifs with before
  · refine ⟨.inl, ?_⟩
    rintro (there | rfl)
    · exact there
    · simpa using before
  · simp

theorem values_learn : (p.learn s value).values = p.values ++ [(s, value)] := rfl

theorem pending_learn : (p.learn s value).pending = p.pending := by
  unfold learn use
  split_ifs <;> rfl

/-- A value that suits its switch is accepted at once, if the switch may be used. -/
theorem take_giving (idle : p.pending = none) (valued : s ≠ .help)
    (free : s ∈ p.used → s.repeats = true) (suits : invalidity? s value = none) :
    p.take (giving (s, value)) = .ok (p.learn s value) := by
  have settled : p.settle = (.ok (), p) := by
    obtain ⟨used, values, pending⟩ := p
    cases idle
    rfl
  have accepted : p.accept s value = (.ok (), p.learn s value) := by
    have once : (p.used.contains s && !s.repeats) = false := by
      simpa using free
    simp only [accept, once, suits]
    rfl
  have long : p.take (giving (s, value)) = p.takeLong (s.name.toList ++ '=' :: value.toList) := by
    simp only [take, toList_giving]
  have name : (s.name.toList ++ '=' :: value.toList).takeWhile (· ≠ '=') = s.name.toList := by
    rw [List.takeWhile_append_of_pos (List.all_eq_true.1 s.all_name)]
    simp
  have rest : (s.name.toList ++ '=' :: value.toList).dropWhile (· ≠ '=') = '=' :: value.toList := by
    rw [List.dropWhile_append_of_pos (List.all_eq_true.1 s.all_name)]
    simp
  have switch :
      p.takeLong (s.name.toList ++ '=' :: value.toList) = p.takeSwitch s (some value) := by
    simp only [takeLong, name, rest, String.ofList_toList, Switch.ofName?_name]
    cases s with
    | help => exact absurd rfl valued
    | _ => rfl
  rw [long, switch, takeSwitch, andThen, settled]
  simp only [if_neg valued, accepted]

/-- No argument with a value is the mark for the end of the switches. -/
theorem takeAll_cons_giving {q : Progress} {x : Switch × String} (taken : p.take (giving x) = .ok q)
    (rest : List String) : p.takeAll (giving x :: rest) = q.takeAll rest := by
  have other : giving x ≠ "--" := by
    intro same
    have short := congrArg String.toList same
    simp [toList_giving] at short
  simp only [takeAll, if_neg other, taken]

end Progress

/-- Values that can be given to switches in this order. -/
structure Acceptable (given : List (Switch × String)) : Prop where
  valued : ∀ x ∈ given, x.1 ≠ .help
  suits : ∀ x ∈ given, invalidity? x.1 x.2 = none
  once : given.Pairwise fun x y => y.1 = x.1 → x.1.repeats = true

variable {given : List (Switch × String)}

theorem Acceptable.tail {x : Switch × String} (h : Acceptable (x :: given)) : Acceptable given where
  valued y hy := h.valued y (List.mem_cons_of_mem x hy)
  suits y hy := h.suits y (List.mem_cons_of_mem x hy)
  once := h.once.tail

/-- Of acceptable values all are known in the end. -/
theorem Progress.takeAll_giving (acceptable : Acceptable given) {p : Progress}
    (idle : p.pending = none) (free : ∀ x ∈ given, x.1 ∈ p.used → x.1.repeats = true) :
    ∃ used, p.takeAll (given.map giving) = .ok ⟨used, p.values ++ given, none⟩ := by
  induction given generalizing p with
  | nil =>
    obtain ⟨used, values, pending⟩ := p
    cases idle
    exact ⟨used, by rw [List.append_nil]; rfl⟩
  | cons x given ih =>
    obtain ⟨s, value⟩ := x
    have first := List.mem_cons_self (a := (s, value)) (l := given)
    have later := (List.pairwise_cons.1 acceptable.once).1
    have free' : ∀ x ∈ given, x.1 ∈ (p.learn s value).used → x.1.repeats = true := by
      intro x hx used
      rcases mem_used_learn.1 used with before | same
      · exact free x (List.mem_cons_of_mem _ hx) before
      · rw [same]
        exact later x hx same
    obtain ⟨used, taken⟩ := ih acceptable.tail (pending_learn.trans idle) free'
    refine ⟨used, ?_⟩
    have accepted := take_giving idle (acceptable.valued _ first) (free _ first)
      (acceptable.suits _ first)
    rw [List.map_cons, takeAll_cons_giving accepted, taken, values_learn, List.append_assoc]
    rfl

/-- Values for a secret, a capacity and origins. -/
def asking (secret : String) (capacity : Nat) (origins : List String) : List (Switch × String) :=
  (.secret, secret) :: (.capacity, capacity.repr) :: origins.map fun o => (.origin, o)

section Asking

variable {capacity : Nat}

theorem acceptable_asking (secret : String) (small : capacity < Decimal.twoTo 64)
    (origins : List String) : Acceptable (asking secret capacity origins) := by
  refine ⟨?_, ?_, ?_⟩
  · simp [asking]
  · simp [asking, invalidity?, Text.readUnsigned_repr small]
  · simp [asking, List.pairwise_map, Switch.repeats, List.pairwise_of_forall]

theorem allValues_asking (used : List Switch) (secret : String) (capacity : Nat)
    (origins : List String) :
    Progress.allValues ⟨used, asking secret capacity origins, none⟩ .origin = origins := by
  simp [Progress.allValues, asking, List.filter_map, Function.comp_def]

theorem value?_asking (used : List Switch) (secret : String) (capacity : Nat)
    (origins : List String) {s : Switch} (other : s ≠ .origin) :
    Progress.value? ⟨used, asking secret capacity origins, none⟩ s =
      if s = .secret then some secret
      else if s = .capacity then some capacity.repr
      else none := by
  have none : ((origins.map fun o => (Switch.origin, o)).reverse).lookup s = none := by
    rw [List.lookup_eq_none_iff]
    simpa using fun _ _ => other
  simp only [Progress.value?, asking, List.reverse_cons, List.append_assoc, List.lookup_append,
    none]
  cases s <;> rfl

/-- Every list of origins and every capacity of 64 bits can be asked for, and is then what the
program is started with. -/
theorem read_asking (environmentSecret : Option String) (secret : String)
    (small : capacity < Decimal.twoTo 64) (origins : List String) :
    read environmentSecret ((asking secret capacity origins).map giving) =
      .ok ⟨"127.0.0.1", 8080, secret,
        if origins.isEmpty then ["http://localhost:3000"] else origins, capacity⟩ := by
  obtain ⟨used, taken⟩ :=
    Progress.takeAll_giving (acceptable_asking secret small origins) (p := {}) rfl
      fun x there used => absurd used List.not_mem_nil
  rw [List.nil_append] at taken
  simp [read, taken, finish, allValues_asking, value?_asking, Text.readUnsigned_repr small,
    Except.toOption]

end Asking
end CommandLine
end RoomHub

import ColumnScan.Json.Record
import ColumnScan.Proofs.Json.Values
import Mathlib.Data.List.Nodup

/-!
# Values that are read from what is written of them

A value is coded by a writer and a reader if what is written of it is a JSON value with a text and
the reader finds the value in what is kept of it, unless that is cut. Texts, truth values, integers
within bounds, lists, values that may be missing, choices and records are coded if their parts are. Main
statements: `record?_ofMembers`, a record is read member by member, and `Coded.read_print`, a coded value
is read from its text.
-/

namespace ColumnScan.Json

variable {α β γ : Type}

/-- What is written of the value has a text, and the value is found in it unless it is cut. -/
structure Coded (encode : α → Json) (decode : Json → Option α) (a : α) : Prop where
  written : (encode a).WellWritten
  decoded : ∀ d, decode ((encode a).cut d) = if (encode a).depth ≤ d then some a else none

/-! ## Cutting -/

/-- Two conditions on depths, one for what comes first and one for the rest, are one. -/
theorem ite_ite_depth (a b d : Nat) (x : Option α) :
    (if a ≤ d then if b ≤ d then x else none else none) = if max a b ≤ d then x else none := by
  rw [← ite_and]
  exact if_congr Nat.max_le.symm rfl rfl

theorem bind_ite_some {c : Prop} [Decidable c] (a : α) (f : α → Option β) :
    (if c then some a else none).bind f = if c then f a else none := by
  split_ifs <;> rfl

theorem map_ite_some {c : Prop} [Decidable c] (a : α) (f : α → β) :
    (if c then some a else none).map f = if c then some (f a) else none := by
  split_ifs <;> rfl

theorem depth_choice (name : String) (content : Json) :
    (choice name content).depth = content.depth + 1 :=
  congrArg (· + 1) (Nat.max_zero content.depth)

theorem cut_ofMembers (members : List (String × Json)) (d : Nat) :
    (ofMembers members).cut (d + 1) = ofMembers (members.map fun m => (m.1, m.2.cut d)) := by
  rw [ofMembers, ofMembers, cut, List.map_map]
  congr 1
  induction members with
  | nil => rfl
  | cons member rest ih =>
    rw [List.map_cons, cutMembers, ih]
    rfl

section

variable {encode : α → Json} {decode : Json → Option α}

/-- A coded value is read from its text, unless it is nested deeper than a reader goes. -/
theorem Coded.read_print {a : α} (h : Coded encode decode a) :
    (read (encode a).print >>= decode) =
      if (encode a).depth ≤ maxDepth then some a else none := by
  rw [Json.read_print h.written]
  exact h.decoded maxDepth

/-- Items that all give a value give the list of the values. -/
theorem mapM_map_eq_some {f : β → Option γ} {g : α → β} {k : α → γ} {as : List α}
    (h : ∀ a ∈ as, f (g a) = some (k a)) : (as.map g).mapM f = some (as.map k) := by
  induction as with
  | nil => rfl
  | cons a as ih =>
    obtain ⟨ha, has⟩ := List.forall_mem_cons.1 h
    rw [List.map_cons, List.mapM_cons, ha, ih has]
    rfl

theorem mapM_cutItems {as : List α} (h : ∀ a ∈ as, Coded encode decode a) (d : Nat) :
    (cutItems d (as.map encode)).mapM decode =
      if depthItems (as.map encode) ≤ d then some as else none := by
  induction as with
  | nil => exact (if_pos (Nat.zero_le d)).symm
  | cons a as ih =>
    obtain ⟨ha, has⟩ := List.forall_mem_cons.1 h
    rw [List.map_cons, cutItems, List.mapM_cons, ha.decoded, ih has, depthItems, ← ite_ite_depth]
    simp only [Option.bind_eq_bind, bind_ite_some]
    rfl

theorem Coded.list {as : List α} (h : ∀ a ∈ as, Coded encode decode a) :
    Coded (fun as => .array (as.map encode)) (toList? decode) as where
  written := .array fun item hitem => by
    obtain ⟨a, ha, rfl⟩ := List.mem_map.1 hitem
    exact (h a ha).written
  decoded d := by
    cases d with
    | zero => rfl
    | succ d => exact (mapM_cutItems h d).trans (if_congr Nat.succ_le_succ_iff.symm rfl rfl)

/-- A value that may be missing is told from a missing one if nothing is written as null. -/
theorem Coded.option {o : Option α} (h : ∀ a, o = some a → Coded encode decode a)
    (hnull : ∀ a d, o = some a → (encode a).cut d ≠ .null) :
    Coded (ofOption encode) (toOption? decode) o := by
  cases o with
  | none => exact ⟨.null, fun d => (if_pos (Nat.zero_le d)).symm⟩
  | some a =>
    refine ⟨(h a rfl).written, fun d => ?_⟩
    rw [ofOption, toOption?]
    · rw [(h a rfl).decoded, map_ite_some]
    · exact hnull a d rfl

/-- A choice is coded if its content is. -/
theorem Coded.choice {put : β → Json} {get : Json → Option β} {wrap : β → α} {name : String} {b : β}
    (h : Coded put get b) (hencode : encode (wrap b) = choice name (put b))
    (hburied : decode .buried = none)
    (hdecode : ∀ j, decode (Json.choice name j) = (get j).map wrap) :
    Coded encode decode (wrap b) where
  written := by
    rw [hencode]
    exact .object (List.forall_mem_singleton.2 rfl) (List.forall_mem_singleton.2 h.written)
  decoded d := by
    rw [hencode, depth_choice]
    cases d with
    | zero => exact hburied
    | succ d =>
      rw [Json.choice, cut_ofMembers]
      show decode (Json.choice name ((put b).cut d)) = _
      rw [hdecode, h.decoded, map_ite_some]
      exact if_congr Nat.succ_le_succ_iff.symm rfl rfl

end

/-! ## Scalars -/

/-- A value that is written without a container is coded if it is found in what is written. -/
theorem coded_scalar {encode : α → Json} {decode : Json → Option α} {a : α}
    (written : (encode a).WellWritten) (flat : (encode a).depth = 0)
    (decoded : decode (encode a) = some a) : Coded encode decode a where
  written := written
  decoded d := by
    have hcut : (encode a).cut d = encode a := by
      cases h : encode a with
      | array | object =>
        rw [h] at flat
        cases flat
      | _ => rfl
    rw [hcut, flat, decoded, if_pos (Nat.zero_le d)]

theorem coded_text (s : String) : Coded ofString toText? s := coded_scalar (.string s) rfl rfl

theorem coded_bool (b : Bool) : Coded .bool toBool? b := coded_scalar (.bool b) rfl rfl

/-- The digits of a natural number are written without a needless zero. -/
theorem leading_toDigits (n : Nat) {rest : List Char} (h : Nat.toDigits 10 n = '0' :: rest) :
    rest = [] := by
  induction n using Nat.strongRecOn generalizing rest with
  | ind n ih =>
    rw [Nat.toDigits_eq_if (by decide)] at h
    split at h
    · exact (List.cons.inj h).2.symm
    next hlarge =>
      -- The digits in front are those of a smaller number, which would have to be zero.
      cases hfront : Nat.toDigits 10 (n / 10) with
      | nil => exact absurd hfront Nat.toDigits_ne_nil
      | cons c tail =>
        rw [hfront, List.cons_append] at h
        obtain ⟨rfl, _⟩ := List.cons.inj h
        obtain rfl := ih (n / 10) (by omega) hfront
        have hvalue : Nat.ofDigitChars 10 (Nat.toDigits 10 (n / 10)) 0 = n / 10 :=
          Nat.ofDigitChars_ten_toDigits
        rw [hfront] at hvalue
        have hzero : Nat.ofDigitChars 10 ['0'] 0 = 0 := by decide
        omega

theorem wellWritten_ofInt (n : Int) : (ofInt n).WellWritten :=
  .number {
    whole := ⟨Nat.toDigits_ne_nil, fun _ => Nat.isDigit_of_mem_toDigits (by decide) (by decide)⟩
    leading := fun _ => leading_toDigits n.natAbs
    fraction := nofun
    exponent := nofun }

theorem coded_int {least greatest n : Int} (hleast : least ≤ n) (hgreatest : n ≤ greatest) :
    Coded ofInt (toIntWithin? least greatest) n := by
  refine coded_scalar (wellWritten_ofInt n) rfl ?_
  have hvalue : Number.toInt? ⟨decide (n < 0), Nat.toDigits 10 n.natAbs, [], none⟩ = some n := by
    rw [Number.toInt?, Nat.ofDigitChars_toDigits (by decide) (by decide)]
    show (if decide (n < 0) = true then if n.natAbs = 0 then none else some (-(n.natAbs : Int))
      else some (n.natAbs : Int)) = some n
    by_cases hsign : n < 0
    · rw [if_pos (decide_eq_true hsign), if_neg (by omega)]
      exact congrArg some (by omega)
    · rw [if_neg fun h => hsign (of_decide_eq_true h)]
      exact congrArg some (by omega)
  rw [ofInt, toIntWithin?, hvalue, Option.filter_some, if_pos]
  simp [hleast, hgreatest]

theorem coded_nat {bits n : Nat} (h : n < twoPow bits) :
    Coded (fun n : Nat => ofInt n) (toNat? bits) n := by
  have hint : Coded ofInt (toIntWithin? 0 (twoPow bits - 1)) (n : Int) :=
    coded_int (by omega) (by omega)
  refine ⟨hint.written, fun d => ?_⟩
  rw [toNat?, hint.decoded, map_ite_some]
  rfl

/-! ## Records -/

theorem wellWritten_ofMembers {members : List (String × Json)}
    (h : members.Forall fun m => m.2.WellWritten) : (ofMembers members).WellWritten :=
  .object (List.forall_mem_map.2 fun _ _ => rfl)
    (List.forall_mem_map.2 (List.forall_iff_forall_mem.1 h))

/-- A member whose name no other member has is found. -/
theorem member?_of_mem {members : List (String × α)} (hnodup : (members.map Prod.fst).Nodup)
    {m : String × α} (hm : m ∈ members) :
    member? (members.map fun m => (some m.1, m.2)) m.1 = some (some m.2) := by
  have honly : (members.map fun m => ((some m.1, m.2) : Text × α)).filter
      (fun member => member.1 == some m.1) = [(some m.1, m.2)] := by
    induction members with
    | nil => cases hm
    | cons first rest ih =>
      obtain ⟨hfirst, hrest⟩ := List.nodup_cons.1 hnodup
      rw [List.map_cons]
      rcases List.mem_cons.1 hm with rfl | hm
      · have hself : ((some m.1 : Text) == some m.1) = true := beq_self_eq_true _
        have hothers : (rest.map fun m => ((some m.1, m.2) : Text × α)).filter
            (fun member => member.1 == some m.1) = [] := by
          rw [List.filter_eq_nil_iff]
          intro member hmember heq
          obtain ⟨other, hother, rfl⟩ := List.mem_map.1 hmember
          exact hfirst (Option.some.inj (eq_of_beq heq) ▸ List.mem_map_of_mem hother)
        rw [List.filter_cons, if_pos hself, hothers]
      · rw [List.filter_cons_of_neg, ih hrest hm]
        intro heq
        exact hfirst (Option.some.inj (eq_of_beq heq) ▸ List.mem_map_of_mem hm)
  rw [member?, honly]

/-- Members are found again one by one. -/
theorem membersNamed?_of_names {names : List String} {members : List (String × α)}
    (hnames : members.map Prod.fst = names) (hnodup : names.Nodup) :
    membersNamed? names (members.map fun m => (some m.1, m.2)) =
      some (members.map fun m => some m.2) := by
  subst hnames
  rw [membersNamed?, if_pos (by simp)]
  exact mapM_map_eq_some fun m hm => member?_of_mem hnodup hm

/-- A record is found again member by member. -/
theorem record?_ofMembers {names : List String} {members : List (String × Json)}
    (hnames : members.map Prod.fst = names) (hnodup : names.Nodup) :
    record? names (ofMembers members) = some (members.map fun m => some m.2) :=
  membersNamed?_of_names hnames hnodup

/-- What is kept of a record is found member by member. -/
theorem record?_cut {names : List String} {members : List (String × Json)}
    (hnames : members.map Prod.fst = names) (hnodup : names.Nodup) (d : Nat) :
    record? names ((ofMembers members).cut (d + 1)) =
      some (members.map fun m => some (m.2.cut d)) := by
  rw [cut_ofMembers, record?_ofMembers _ hnodup, List.map_map]
  · rfl
  · rw [List.map_map]
    exact hnames

/-- Whatever comes out of items that all give a value is the value of one of them. -/
theorem exists_of_mem_mapM {f : β → Option γ} {bs : List β} {cs : List γ}
    (h : bs.mapM f = some cs) {c : γ} (hc : c ∈ cs) : ∃ b ∈ bs, f b = some c := by
  induction bs generalizing cs with
  | nil =>
    cases h
    cases hc
  | cons b bs ih =>
    simp only [List.mapM_cons, Option.bind_eq_bind, Option.bind_eq_some_iff, Option.pure_def,
      Option.some.injEq] at h
    obtain ⟨first, hfirst, rest, hrest, rfl⟩ := h
    rcases List.mem_cons.1 hc with rfl | hc
    · exact ⟨b, List.mem_cons_self, hfirst⟩
    · obtain ⟨b', hb', hfound⟩ := ih hrest hc
      exact ⟨b', List.mem_cons_of_mem _ hb', hfound⟩

/-- What is found by its name is a member. -/
theorem exists_mem_of_membersNamed? {names : List String} {members : List (Text × α)}
    {parts : List (Option α)} (h : membersNamed? names members = some parts) {a : α}
    (ha : some a ∈ parts) : ∃ key, (key, a) ∈ members := by
  rw [membersNamed?] at h
  split_ifs at h
  obtain ⟨name, _, hname⟩ := exists_of_mem_mapM h ha
  rw [member?] at hname
  split at hname
  · cases hname
  · next m hfilter =>
    obtain rfl := Option.some.inj (Option.some.inj hname)
    have hm : m ∈ members := (List.mem_filter.1 (hfilter ▸ List.mem_singleton_self m)).1
    exact ⟨m.1, hm⟩
  · cases hname

/-- What is found by its position is an item. -/
theorem mem_of_membersInOrder? {names : List String} {items : List α} {parts : List (Option α)}
    (h : membersInOrder? names items = some parts) {a : α} (ha : some a ∈ parts) : a ∈ items := by
  rw [membersInOrder?] at h
  split_ifs at h
  obtain rfl := Option.some.inj h
  rcases List.mem_append.1 ha with ha | ha
  · obtain ⟨b, hb, heq⟩ := List.mem_map.1 ha
    exact Option.some.inj heq ▸ hb
  · cases List.eq_of_mem_replicate ha

end ColumnScan.Json

import ColumnScan.Predicate.Codec
import ColumnScan.Proofs.Json.Records

/-!
# Search arguments come back from their texts

A scan is handed its search argument as a text, so what the text loses no scan applies. Every part of
a search argument is read again as it was written: literals, leaves, expressions, and the two members
of the whole. Floating-point literals are left out: the shortest digits of one, read with a product of
powers of ten, may give its neighbour. Main statement: `SearchArgument.ofBlob_toBlob`.
-/

namespace ColumnScan

open Json (Coded)

/-! ## Literals -/

namespace Literal

/-- An integer of fixed width is read as the integer that it is. -/
theorem coded_signed {α : Type} {bits : Nat} {toInt : α → Int} {ofInt : Int → α} {a : α}
    (hlow : (-(twoPow bits : Nat) : Int) ≤ toInt a) (hhigh : toInt a < (twoPow bits : Nat))
    (hback : ofInt (toInt a) = a) :
    Coded (fun a => .ofInt (toInt a))
      (fun j => (j.toIntWithin? (-twoPow bits) (twoPow bits - 1)).map ofInt) a := by
  have hint := Json.coded_int hlow (Int.le_sub_one_of_lt hhigh)
  refine ⟨hint.written, fun d => ?_⟩
  rw [hint.decoded, Json.map_ite_some, hback]

theorem coded_long (n : Int64) : Coded (fun n : Int64 => .ofInt n.toInt) decodeLong n :=
  coded_signed (Int64.le_toInt n) (Int64.toInt_lt n) (Int64.ofInt_toInt n)

theorem coded_int (n : Int32) : Coded (fun n : Int32 => .ofInt n.toInt) decodeInt n :=
  coded_signed (Int32.le_toInt n) (Int32.toInt_lt n) (Int32.ofInt_toInt n)

/-- A choice other than the null literal is read as its content is. -/
theorem decode_choice {form : String} {content : Json} (h : form ≠ "Null") :
    decode (.choice form content) = decodeContent form content := by
  show decode (.object [(some form, content)]) = _
  have hplain : (Json.object [(some form, content)]).plainChoice? ≠ some "Null" := by
    cases content <;> simp [Json.plainChoice?, h]
  rw [decode, if_neg hplain]

/-- A literal that is written as a choice is coded if its content is. -/
theorem coded_choice {α : Type} {put : α → Json} {get : Json → Option α} {wrap : α → Literal}
    {form : String} {a : α} (h : Coded put get a) (hform : form ≠ "Null")
    (hencode : (wrap a).encode = .choice form (put a))
    (hdecode : ∀ j, decodeContent form j = (get j).map wrap) : Coded encode decode (wrap a) :=
  h.choice hencode rfl fun j => by rw [decode_choice hform, hdecode]

theorem coded {l : Literal} (h : ∀ x, l ≠ .float x) : Coded encode decode l := by
  cases l with
  | null => exact Json.coded_scalar (.string _) rfl rfl
  | boolean b => exact coded_choice (Json.coded_bool b) (by decide) rfl fun _ => rfl
  | long n => exact coded_choice (coded_long n) (by decide) rfl fun _ => rfl
  | float x => exact absurd rfl (h x)
  | string s => exact coded_choice (Json.coded_text s) (by decide) rfl fun _ => rfl
  | decimal s => exact coded_choice (Json.coded_text s) (by decide) rfl fun _ => rfl
  | timestamp n => exact coded_choice (coded_long n) (by decide) rfl fun _ => rfl
  | date n => exact coded_choice (coded_int n) (by decide) rfl fun _ => rfl

end Literal

/-! ## Leaves -/

theorem Operator.ofName?_name (o : Operator) : ofName? o.name = some o := by
  cases o <;> decide

theorem Truth.ofName?_name (t : Truth) : ofName? t.name = some t := by
  cases t <;> decide

theorem Leaf.coded {l : Leaf} (h : ∀ x, .float x ∉ l.literals) : Coded encode decode l := by
  have hliterals : Coded (fun ls => .array (ls.map Literal.encode)) (Json.toList? Literal.decode)
      l.literals := .list fun literal hmem => Literal.coded fun x hx => h x (hx ▸ hmem)
  refine ⟨Json.wellWritten_ofMembers ⟨.string _, .string _, hliterals.written⟩, fun d => ?_⟩
  cases d with
  | zero => rfl
  | succ d =>
    rw [decode, encode, Json.record?_cut]
    · show ((Operator.ofName? l.operator.name).bind fun operator =>
        (some l.column).bind fun column =>
          (Json.toList? Literal.decode ((Json.array (l.literals.map Literal.encode)).cut d)).bind
            fun literals => some (⟨operator, column, literals⟩ : Leaf)) = _
      rw [Operator.ofName?_name, hliterals.decoded, Option.bind_some, Option.bind_some,
        Json.bind_ite_some]
      exact if_congr (by simp [Json.ofMembers, Json.depth, Json.depthMembers, Json.ofString]) rfl rfl
    · rfl
    · decide

/-! ## Expressions -/

namespace Expression

theorem encodeAll_eq_map (es : List Expression) : encodeAll es = es.map encode := by
  induction es with
  | nil => rfl
  | cons e es ih => rw [encodeAll, ih, List.map_cons]

theorem decodeAll_eq_mapM (items : List Json) : decodeAll items = items.mapM decode := by
  induction items with
  | nil => rfl
  | cons j items ih => rw [decodeAll, ih, List.mapM_cons]

theorem decode_and (j : Json) : decode (.choice "And" j) = (j.toList? decode).map and := by
  cases j with
  | array items => exact congrArg (Option.map and) (decodeAll_eq_mapM items)
  | _ => rfl

theorem decode_or (j : Json) : decode (.choice "Or" j) = (j.toList? decode).map or := by
  cases j with
  | array items => exact congrArg (Option.map or) (decodeAll_eq_mapM items)
  | _ => rfl

theorem coded_constant (value : Truth) : Coded encode decode (.constant value) := by
  have hname : Coded (fun t : Truth => .ofString t.name)
      (fun j => j.plainChoice? >>= Truth.ofName?) value :=
    Json.coded_scalar (.string _) rfl (Truth.ofName?_name value)
  exact hname.choice rfl rfl fun _ => rfl

mutual

theorem coded : (e : Expression) → (∀ i ∈ e.indices, i < twoPow 64) → Coded encode decode e
  | .and children, h =>
    (Coded.list (codedAll children h)).choice (by rw [encode, encodeAll_eq_map]) rfl decode_and
  | .or children, h =>
    (Coded.list (codedAll children h)).choice (by rw [encode, encodeAll_eq_map]) rfl decode_or
  | .not child, h => (coded child h).choice rfl rfl fun _ => rfl
  | .leaf index, h =>
    (Json.coded_nat (h index (List.mem_singleton.2 rfl))).choice rfl rfl fun _ => rfl
  | .constant value, _ => coded_constant value

theorem codedAll : (es : List Expression) → (∀ i ∈ indicesAll es, i < twoPow 64) →
    ∀ e ∈ es, Coded encode decode e
  | [], _ => nofun
  | e :: rest, h => List.forall_mem_cons.2
    ⟨coded e fun i hi => h i (List.mem_append_left _ hi),
      codedAll rest fun i hi => h i (List.mem_append_right _ hi)⟩

end

end Expression

/-! ## Search arguments -/

namespace SearchArgument

/-- No leaf compares with a floating-point number. -/
def FloatFree (a : SearchArgument) : Prop := ∀ l ∈ a.leaves, ∀ x, .float x ∉ l.literals

/-- The places of the leaves are numbers that a machine word holds, as places of a list are. -/
def InWords (a : SearchArgument) : Prop := ∀ i ∈ a.expression.indices, i < twoPow 64

/-- The parts of a search argument as JSON. -/
def encodeParts (parts : List Leaf × Expression) : Json :=
  .ofMembers [("leaves", .array (parts.1.map Leaf.encode)), ("expression", parts.2.encode)]

/-- The parts that a JSON value holds. -/
def decodeJson? (j : Json) : Option (List Leaf × Expression) := do
  match ← Json.record? ["leaves", "expression"] j with
  | [some leaves, some expression] =>
    let leaves ← leaves.toList? Leaf.decode
    let expression ← Expression.decode expression
    return (leaves, expression)
  | _ => none

theorem coded_parts {leaves : List Leaf} {e : Expression}
    (hfloat : ∀ l ∈ leaves, ∀ x, .float x ∉ l.literals) (hwords : ∀ i ∈ e.indices, i < twoPow 64) :
    Coded encodeParts decodeJson? (leaves, e) := by
  have hleaves : Coded (fun ls => .array (ls.map Leaf.encode)) (Json.toList? Leaf.decode) leaves :=
    .list fun l hl => Leaf.coded (hfloat l hl)
  have hexpression := Expression.coded e hwords
  refine ⟨Json.wellWritten_ofMembers ⟨hleaves.written, hexpression.written⟩, fun d => ?_⟩
  cases d with
  | zero => rfl
  | succ d =>
    rw [decodeJson?, encodeParts, Json.record?_cut]
    · show ((Json.toList? Leaf.decode ((Json.array (leaves.map Leaf.encode)).cut d)).bind fun leaves =>
        (Expression.decode (e.encode.cut d)).bind fun expression =>
          some (leaves, expression)) = _
      rw [hleaves.decoded, hexpression.decoded, Json.bind_ite_some, Json.bind_ite_some,
        Json.ite_ite_depth]
      exact if_congr (by simp [Json.ofMembers, Json.depth, Json.depthMembers]) rfl rfl
    · rfl
    · decide

/-- The parts are found in the text, unless it is nested deeper than a reader goes. -/
theorem decodeParts?_toBlob {a : SearchArgument} (hfloat : a.FloatFree) (hwords : a.InWords) :
    decodeParts? a.toBlob =
      if a.encode.depth ≤ Json.maxDepth then some (a.leaves, a.expression) else none :=
  (coded_parts hfloat hwords).read_print

/-- The search arguments that are taken are those with the parts found in the text. -/
theorem ofBlob_eq_ok_iff {blob : String} {a : SearchArgument} :
    ofBlob blob = .ok a ↔ decodeParts? blob = some (a.leaves, a.expression) := by
  rw [ofBlob]
  cases h : decodeParts? blob with
  | none => exact iff_of_false nofun nofun
  | some parts =>
    rw [ofParts_eq_ok_iff, Option.some.injEq, Prod.mk.injEq]
    exact ⟨fun h => ⟨h.1.symm, h.2.symm⟩, fun h => ⟨h.1.symm, h.2.symm⟩⟩

/-- A text that is not nested too deep gives the search argument back. -/
theorem ofBlob_of_depth_le {a : SearchArgument} (hfloat : a.FloatFree) (hwords : a.InWords)
    (hdepth : a.encode.depth ≤ Json.maxDepth) : ofBlob a.toBlob = .ok a := by
  rw [ofBlob_eq_ok_iff, decodeParts?_toBlob hfloat hwords, if_pos hdepth]

/-- A leaf beyond the table is refused by the greatest one. -/
theorem ofParts_of_dangling {leaves : List Leaf} {e : Expression}
    (h : ∃ i ∈ e.indices, leaves.length ≤ i) :
    ∃ m ∈ e.indices, (∀ i ∈ e.indices, i ≤ m) ∧
      ofParts leaves e = .error (.danglingLeaf m leaves.length) := by
  obtain ⟨i, hi, hbeyond⟩ := h
  obtain ⟨m, hm⟩ := List.isSome_max?_of_mem hi |> Option.isSome_iff_exists.1
  obtain ⟨hmem, hmax⟩ := List.max?_eq_some_iff.1 hm
  refine ⟨m, hmem, hmax, ?_⟩
  rw [ofParts, dif_neg fun hall => Nat.not_lt.2 hbeyond (hall i hi), hm, Option.getD_some]

/-- A search argument comes back from its text as it was, if no leaf compares with a floating-point
number and the text is not nested deeper than a reader goes. Whatever the text, the leaves of what is
taken are in its table, and what names a leaf beyond the table is refused by the greatest one. -/
theorem ofBlob_toBlob :
    (∀ a : SearchArgument, a.FloatFree → a.InWords →
      ofBlob a.toBlob =
        if a.encode.depth ≤ Json.maxDepth then .ok a else .error .undecodable) ∧
    ∀ blob : String,
      (∀ a, ofBlob blob = .ok a → decodeParts? blob = some (a.leaves, a.expression) ∧
        ∀ i ∈ a.expression.indices, i < a.leaves.length) ∧
      ∀ leaves e, decodeParts? blob = some (leaves, e) → (∃ i ∈ e.indices, leaves.length ≤ i) →
        ∃ m ∈ e.indices, (∀ i ∈ e.indices, i ≤ m) ∧
          ofBlob blob = .error (.danglingLeaf m leaves.length) := by
  refine ⟨fun a hfloat hwords => ?_, fun blob => ⟨fun a h => ?_, fun leaves e h hdangling => ?_⟩⟩
  · split_ifs with hdepth
    · exact ofBlob_of_depth_le hfloat hwords hdepth
    · rw [ofBlob, decodeParts?_toBlob hfloat hwords, if_neg hdepth]
  · exact ⟨ofBlob_eq_ok_iff.1 h, a.inTable⟩
  · obtain ⟨m, hmem, hmax, hm⟩ := ofParts_of_dangling hdangling
    refine ⟨m, hmem, hmax, ?_⟩
    rw [ofBlob, h]
    exact hm

/-- Quotes, backslashes, controls and signs beyond the basic plane in columns and literals, and groups
of nothing in the expression. -/
def spelled : SearchArgument where
  leaves :=
    [⟨.inList, "Preis \"\\\u0007 𝄞",
      [.string "a\nb", .long (-9223372036854775808), .null, .date (-1)]⟩,
     ⟨.isNull, "É", []⟩]
  expression := .and [.or [], .not (.leaf 1), .or [.leaf 0, .constant .unknown], .and []]
  inTable := by decide

/-- An expression that names two leaves, and no table. -/
def dangling : Expression := .and [.leaf 3, .not (.leaf 7)]

theorem ofBlob_toBlob_spelled :
    spelled.FloatFree ∧ spelled.InWords ∧ ofBlob spelled.toBlob = .ok spelled ∧
      (∀ i ∈ spelled.expression.indices, i < spelled.leaves.length) ∧
      ofBlob (encodeParts ([], dangling)).print = .error (.danglingLeaf 7 0) := by
  have hfloat : spelled.FloatFree := by simp [FloatFree, spelled]
  have hwords : spelled.InWords := fun i hi =>
    Nat.lt_trans (spelled.inTable i hi) (by decide)
  have htaken : ofBlob spelled.toBlob = .ok spelled := by
    rw [ofBlob_toBlob.1 spelled hfloat hwords, if_pos (by decide)]
  have hgreatest : ∀ i ∈ dangling.indices, i ≤ 7 := by decide
  have hparts : decodeParts? (encodeParts ([], dangling)).print = some ([], dangling) :=
    (coded_parts (fun _ hl => absurd hl List.not_mem_nil) fun i hi =>
      Nat.lt_of_le_of_lt (hgreatest i hi) (by decide)).read_print.trans (if_pos (by decide))
  refine ⟨hfloat, hwords, htaken, ((ofBlob_toBlob.2 _).1 _ htaken).2, ?_⟩
  obtain ⟨m, hmem, hmax, hm⟩ := (ofBlob_toBlob.2 _).2 [] dangling hparts
    ⟨3, by decide, Nat.zero_le 3⟩
  obtain rfl : m = 7 := Nat.le_antisymm (hgreatest m hmem) (hmax 7 (by decide))
  exact hm

end SearchArgument

end ColumnScan

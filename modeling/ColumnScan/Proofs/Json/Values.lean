import ColumnScan.Json.Reader
import ColumnScan.Proofs.Json.Words
import Mathlib.Logic.Basic

/-!
# Written values are read again

A value is read from its own text as it is, however its containers are nested, but for those that are
nested deeper than a reader goes: nothing of them is kept, which `cut` says. Main statement: `read_print`.
-/

namespace ColumnScan.Json

mutual

/-- How deep the containers of a value are nested. -/
def depth : Json → Nat
  | .array items => depthItems items + 1
  | .object members => depthMembers members + 1
  | _ => 0

/-- The greatest depth of the items. -/
def depthItems : List Json → Nat
  | [] => 0
  | item :: rest => max item.depth (depthItems rest)

/-- The greatest depth of the members. -/
def depthMembers : List (Text × Json) → Nat
  | [] => 0
  | (_, value) :: rest => max value.depth (depthMembers rest)

end

mutual

/-- What is kept of a value if containers are kept so deep. -/
def cut : Nat → Json → Json
  | depth, .array items =>
    match depth with
    | 0 => .buried
    | depth + 1 => .array (cutItems depth items)
  | depth, .object members =>
    match depth with
    | 0 => .buried
    | depth + 1 => .object (cutMembers depth members)
  | _, value => value

/-- What is kept of items. -/
def cutItems (depth : Nat) : List Json → List Json
  | [] => []
  | item :: rest => item.cut depth :: cutItems depth rest

/-- What is kept of members. -/
def cutMembers (depth : Nat) : List (Text × Json) → List (Text × Json)
  | [] => []
  | (key, value) :: rest => (key, value.cut depth) :: cutMembers depth rest

end

/-! ## The words of containers -/

/-- The words of the items that follow another one, and the closing bracket. -/
def moreItems : List Json → List Token
  | [] => [.closeBracket]
  | rest => .comma :: tokensItems rest

/-- The words of the members that follow another one, and the closing brace. -/
def moreMembers : List (Text × Json) → List Token
  | [] => [.closeBrace]
  | rest => .comma :: tokensMembers rest

theorem tokensItems_cons (item : Json) (more : List Json) :
    tokensItems (item :: more) = item.tokens ++ moreItems more := by
  cases more <;> rw [tokensItems] <;> first | rfl | nofun

theorem tokensMembers_cons (key : Text) (value : Json) (more : List (Text × Json)) :
    tokensMembers ((key, value) :: more) =
      .string key :: .colon :: (value.tokens ++ moreMembers more) := by
  cases more <;> rw [tokensMembers] <;> first | rfl | nofun

/-! ## From words to the value -/

/-- All numbers in the value have their digits, and all strings in it their text. -/
inductive WellWritten : Json → Prop where
  | null : WellWritten .null
  | bool (value : Bool) : WellWritten (.bool value)
  | number {n : Number} (digits : n.WellWritten) : WellWritten (.number n)
  | string (s : String) : WellWritten (.string (some s))
  | array {items : List Json} (parts : ∀ item ∈ items, WellWritten item) :
    WellWritten (.array items)
  | object {members : List (Text × Json)} (keys : ∀ member ∈ members, member.1.isSome = true)
    (parts : ∀ member ∈ members, WellWritten member.2) : WellWritten (.object members)

/-- No value that is written begins with a closing bracket. -/
theorem tokens_ne_closeBracket {j : Json} (hj : j.WellWritten) (ts : List Token)
    (rest : List Token) : j.tokens ++ ts ≠ .closeBracket :: rest := by
  cases hj <;> simp [tokens]

theorem readValue_openBracket {stack : List Frame} {ts : List Token}
    (hts : ∀ rest, ts ≠ .closeBracket :: rest) :
    readValue stack (.openBracket :: ts) = readValue (.array [] :: stack) ts := by
  rw [readValue]
  exact hts

/-- A container is kept as deep as there is room below those around it. -/
theorem keep_array (stack : List Frame) (items : List Json) :
    keep stack (.array (cutItems (maxDepth - (stack.length + 1)) items)) =
      (Json.array items).cut (maxDepth - stack.length) := by
  rw [keep]
  split_ifs with hroom
  · rw [← Nat.succ_pred_eq_of_pos (Nat.sub_pos_of_lt hroom), cut, Nat.sub_add_eq]
    rfl
  · rw [Nat.sub_eq_zero_of_le (Nat.not_lt.1 hroom), cut]

theorem keep_object (stack : List Frame) (members : List (Text × Json)) :
    keep stack (.object (cutMembers (maxDepth - (stack.length + 1)) members)) =
      (Json.object members).cut (maxDepth - stack.length) := by
  rw [keep]
  split_ifs with hroom
  · rw [← Nat.succ_pred_eq_of_pos (Nat.sub_pos_of_lt hroom), cut, Nat.sub_add_eq]
    rfl
  · rw [Nat.sub_eq_zero_of_le (Nat.not_lt.1 hroom), cut]

/-- The words of the value are put together to what is kept of it. -/
def ReadsBack (j : Json) : Prop :=
  ∀ stack rest, readValue stack (j.tokens ++ rest) =
    readRest stack (j.cut (maxDepth - stack.length)) rest

theorem readRest_moreItems {more : List Json} (h : ∀ item ∈ more, ReadsBack item)
    (done : List Json) (item : Json) (stack : List Frame) (rest : List Token) :
    readRest (.array done :: stack) item (moreItems more ++ rest) =
      readRest stack (keep stack (.array
        (done ++ item :: cutItems (maxDepth - (stack.length + 1)) more))) rest := by
  induction more generalizing done item with
  | nil => rfl
  | cons next more ih =>
    obtain ⟨hnext, hmore⟩ := List.forall_mem_cons.1 h
    show readRest (.array done :: stack) item (.comma :: (tokensItems (next :: more) ++ rest)) = _
    rw [tokensItems_cons, readRest, List.append_assoc, hnext, ih hmore, cutItems,
      List.append_assoc]
    rfl

theorem readRest_moreMembers {more : List (Text × Json)} (h : ∀ member ∈ more, ReadsBack member.2)
    (done : List (Text × Json)) (key : Text) (value : Json) (stack : List Frame)
    (rest : List Token) :
    readRest (.object done key :: stack) value (moreMembers more ++ rest) =
      readRest stack (keep stack (.object
        (done ++ (key, value) :: cutMembers (maxDepth - (stack.length + 1)) more))) rest := by
  induction more generalizing done key value with
  | nil => rfl
  | cons member more ih =>
    obtain ⟨next, v⟩ := member
    obtain ⟨hnext, hmore⟩ := List.forall_mem_cons.1 h
    show readRest (.object done key :: stack) value
      (.comma :: (tokensMembers ((next, v) :: more) ++ rest)) = _
    rw [tokensMembers_cons, List.cons_append, List.cons_append, readRest, List.append_assoc, hnext,
      ih hmore, cutMembers, List.append_assoc]
    rfl

theorem readsBack {j : Json} (hj : j.WellWritten) : ReadsBack j := by
  induction hj with
  | null | bool | number | string =>
    intro stack rest
    rw [tokens, List.singleton_append, readValue]
    rfl
  | @array items parts ih =>
    intro stack rest
    rw [← keep_array]
    cases items with
    | nil =>
      show readValue stack (.openBracket :: .closeBracket :: rest) = _
      rw [readValue]
      rfl
    | cons item more =>
      obtain ⟨hitem, hmore⟩ := List.forall_mem_cons.1 ih
      rw [tokens, tokensItems_cons, List.cons_append, List.append_assoc,
        readValue_openBracket (tokens_ne_closeBracket (parts item List.mem_cons_self) _), hitem,
        readRest_moreItems hmore]
      rfl
  | @object members _ _ ih =>
    intro stack rest
    rw [← keep_object]
    cases members with
    | nil =>
      show readValue stack (.openBrace :: .closeBrace :: rest) = _
      rw [readValue]
      rfl
    | cons member more =>
      obtain ⟨key, value⟩ := member
      obtain ⟨hvalue, hmore⟩ := List.forall_mem_cons.1 ih
      rw [tokens, tokensMembers_cons]
      show readValue stack
        (.openBrace :: .string key :: .colon :: (value.tokens ++ moreMembers more ++ rest)) = _
      rw [readValue, List.append_assoc, hvalue, readRest_moreMembers hmore]
      rfl

/-! ## From the text to the words -/

/-- The words as a text. -/
def charsOf (ts : List Token) : List Char := ts.flatMap Token.chars

theorem charsOf_cons (t : Token) (ts : List Token) : charsOf (t :: ts) = t.chars ++ charsOf ts :=
  List.flatMap_cons

theorem charsOf_append (ts us : List Token) : charsOf (ts ++ us) = charsOf ts ++ charsOf us :=
  List.flatMap_append

theorem endsNumber_cons {c : Char} (h : c ∈ [',', ']', '\x7d']) (cs : List Char) :
    EndsNumber (c :: cs) := by
  intro d hd
  obtain rfl : c = d := Option.some.inj hd
  simp only [List.mem_cons, List.not_mem_nil, or_false] at h
  rcases h with rfl | rfl | rfl <;> decide

/-- What follows an item does not go on with a number. -/
theorem endsNumber_moreItems (more : List Json) (rest : List Char) :
    EndsNumber (charsOf (moreItems more) ++ rest) := by
  cases more <;> exact endsNumber_cons (by decide) _

/-- What follows a member does not go on with a number. -/
theorem endsNumber_moreMembers (more : List (Text × Json)) (rest : List Char) :
    EndsNumber (charsOf (moreMembers more) ++ rest) := by
  cases more <;> exact endsNumber_cons (by decide) _

/-- The text of words is cut into these words, and what follows is cut on its own. -/
def LexesTo (ts : List Token) (rest : List Char) : Prop :=
  lex (charsOf ts ++ rest) = (lex rest).map (ts ++ ·)

theorem LexesTo.append {ts us : List Token} {rest : List Char}
    (hts : LexesTo ts (charsOf us ++ rest)) (hus : LexesTo us rest) : LexesTo (ts ++ us) rest := by
  rw [LexesTo, charsOf_append, List.append_assoc, hts, hus, Option.map_map]
  congr 1
  funext vs
  exact (List.append_assoc ts us vs).symm

/-- A word that is no number is cut off whatever follows it. -/
theorem lexesTo_cons {t : Token} {ts : List Token} {rest : List Char} (ht : t.WellWritten)
    (hnumber : ∀ n, t ≠ .number n) (h : LexesTo ts rest) : LexesTo (t :: ts) rest := by
  have hfirst : LexesTo [t] (charsOf ts ++ rest) := by
    have hchars : charsOf [t] = t.chars := by rw [charsOf_cons]; exact List.append_nil _
    rw [LexesTo, hchars]
    exact lex_chars ht fun n hn => absurd hn (hnumber n)
  exact hfirst.append h

theorem lexesTo_nil (rest : List Char) : LexesTo [] rest := by
  show lex rest = (lex rest).map fun ts => ts
  rw [Option.map_id']

/-- The words of items follow from the words of each. -/
theorem lexesTo_moreItems {items : List Json}
    (h : ∀ item ∈ items, ∀ rest, EndsNumber rest → LexesTo item.tokens rest) (rest : List Char) :
    LexesTo (moreItems items) rest := by
  induction items with
  | nil => exact lexesTo_cons trivial nofun (lexesTo_nil rest)
  | cons item more ih =>
    obtain ⟨hitem, hmore⟩ := List.forall_mem_cons.1 h
    show LexesTo (.comma :: tokensItems (item :: more)) rest
    rw [tokensItems_cons]
    exact lexesTo_cons trivial nofun
      ((hitem _ (endsNumber_moreItems more rest)).append (ih hmore))

/-- The words of members follow from the words of each. -/
theorem lexesTo_moreMembers {members : List (Text × Json)}
    (hkeys : ∀ member ∈ members, member.1.isSome = true)
    (h : ∀ member ∈ members, ∀ rest, EndsNumber rest → LexesTo member.2.tokens rest)
    (rest : List Char) : LexesTo (moreMembers members) rest := by
  induction members with
  | nil => exact lexesTo_cons trivial nofun (lexesTo_nil rest)
  | cons member more ih =>
    obtain ⟨key, value⟩ := member
    obtain ⟨hvalue, hmore⟩ := List.forall_mem_cons.1 h
    obtain ⟨hkey, hothers⟩ := List.forall_mem_cons.1 hkeys
    show LexesTo (.comma :: tokensMembers ((key, value) :: more)) rest
    rw [tokensMembers_cons]
    exact lexesTo_cons trivial nofun (lexesTo_cons hkey nofun (lexesTo_cons trivial nofun
      ((hvalue _ (endsNumber_moreMembers more rest)).append (ih hothers hmore))))

/-- The text of a value is cut into its words. -/
theorem lexesTo_tokens {j : Json} (hj : j.WellWritten) :
    ∀ rest, EndsNumber rest → LexesTo j.tokens rest := by
  induction hj with
  | null => exact fun rest _ => lexesTo_cons trivial nofun (lexesTo_nil rest)
  | bool b => exact fun rest _ => lexesTo_cons trivial nofun (lexesTo_nil rest)
  | string s => exact fun rest _ => lexesTo_cons rfl nofun (lexesTo_nil rest)
  | @number n digits =>
    intro rest hrest
    have hchars : charsOf [.number n] = n.chars := List.append_nil _
    rw [tokens, LexesTo, hchars]
    exact lex_chars (t := .number n) digits fun _ _ => hrest
  | @array items _ ih =>
    intro rest _
    cases items with
    | nil => exact lexesTo_cons trivial nofun (lexesTo_cons trivial nofun (lexesTo_nil rest))
    | cons item more =>
      obtain ⟨hitem, hmore⟩ := List.forall_mem_cons.1 ih
      rw [tokens, tokensItems_cons]
      exact lexesTo_cons trivial nofun
        ((hitem _ (endsNumber_moreItems more rest)).append (lexesTo_moreItems hmore rest))
  | @object members keys _ ih =>
    intro rest _
    cases members with
    | nil => exact lexesTo_cons trivial nofun (lexesTo_cons trivial nofun (lexesTo_nil rest))
    | cons member more =>
      obtain ⟨key, value⟩ := member
      obtain ⟨hvalue, hmore⟩ := List.forall_mem_cons.1 ih
      obtain ⟨hkey, hothers⟩ := List.forall_mem_cons.1 keys
      rw [tokens, tokensMembers_cons]
      exact lexesTo_cons trivial nofun (lexesTo_cons hkey nofun (lexesTo_cons trivial nofun
        ((hvalue _ (endsNumber_moreMembers more rest)).append
          (lexesTo_moreMembers hothers hmore rest))))

/-- A value is read from its text, but for what is nested deeper than a reader goes. -/
theorem read_print {j : Json} (hj : j.WellWritten) : read j.print = some (j.cut maxDepth) := by
  have hlex := lexesTo_tokens hj [] nofun
  rw [LexesTo, List.append_nil, lex, Option.map_some, List.append_nil] at hlex
  have hread := readsBack hj [] []
  rw [List.append_nil] at hread
  rw [read, print, String.toList_ofList]
  show (lex (charsOf j.tokens) >>= fun tokens => readValue [] tokens) = _
  rw [hlex, Option.bind_eq_bind, Option.bind_some, hread]
  rfl

end ColumnScan.Json

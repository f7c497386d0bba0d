import ControlPlane.Proofs.Json.Place
import ControlPlane.Proofs.Json.Scalar

/-!
# Following JSON pointers

A JSON pointer is followed token by token. The text is split at its slashes, of which the first stands
in front of all tokens. In a token `~1` is a slash and `~0` a tilde; it leads to the member of the key
that it spells, or to the item whose index it writes in decimal digits without a leading zero.

One pointer lies at or below another one if it goes on behind it at a slash, and this is what it means
for paths that lead into one value.

## Main definitions

* `Json.unescaped`, `Json.position?` : a token as a key and as an index.
* `Json.atPointer?` : the part of a value that a pointer leads to.
* `Json.AtOrBelow` : one pointer at or below another one, by their texts.

## Main statements

* `Json.splitOn_pointer` : the pointer of a path splits into the tokens of its steps.
* `Json.atPointer?_pointer` : the pointer of a path leads where the path does.
* `Json.atOrBelow_pointer_iff` : of paths into one value the texts of the pointers tell which lies
  below which.
-/

namespace ControlPlane.Json

variable {v w : Json} {step : Step} {path : Path}

/-- A token with its escapes undone. -/
def unescaped : List Char → List Char
  | '~' :: '1' :: rest => '/' :: unescaped rest
  | '~' :: '0' :: rest => '~' :: unescaped rest
  | c :: rest => c :: unescaped rest
  | [] => []

/-- The index that a token writes. -/
def position? : List Char → Option Nat
  | [] => none
  | c :: rest =>
    if (c :: rest).all Char.isDigit && (c != '0' || rest.isEmpty) then
      some (Nat.ofDigitChars 10 (c :: rest) 0)
    else none

/-- The part of a value that a token leads to. -/
def atToken? (v : Json) (token : List Char) : Option Json :=
  match v with
  | .object members => Members.get? members (String.ofList (unescaped token))
  | .array items => (position? token).bind fun position => items[position]?
  | _ => none

/-- The part of a value that tokens lead to. -/
def atTokens? (v : Json) : List (List Char) → Option Json
  | [] => some v
  | token :: rest => (v.atToken? token).bind fun part => part.atTokens? rest

/-- The part of a value that a JSON pointer leads to. -/
def atPointer? (v : Json) (pointer : String) : Option Json :=
  match pointer.toList.splitOn '/' with
  | [] :: tokens => v.atTokens? tokens
  | _ => none

/-! ### Tokens -/

/-- A character of a key as it stands in a token. -/
def escapedInToken (c : Char) : List Char :=
  if c = '~' then ['~', '0'] else if c = '/' then ['~', '1'] else [c]

theorem toList_token_key (name : String) :
    (Step.key name).token.toList = name.toList.flatMap escapedInToken := by
  rw [Step.token, String.toList_join, List.flatMap_map]
  congr 1
  funext c
  unfold escapedInToken
  split_ifs <;> simp

theorem toList_token_index (position : Nat) :
    (Step.index position).token.toList = Nat.toDigits 10 position := by
  rw [Step.token, Nat.toString_eq_repr, Nat.toList_repr]

theorem unescaped_escapedInToken (c : Char) (rest : List Char) :
    unescaped (escapedInToken c ++ rest) = c :: unescaped rest := by
  unfold escapedInToken
  split_ifs with htilde hslash
  · rw [htilde]; rfl
  · rw [hslash]; rfl
  · rw [List.singleton_append, unescaped]
    · rintro _ rfl
      exact absurd rfl htilde
    · rintro _ rfl
      exact absurd rfl htilde

/-- The token of a key spells the key. -/
theorem unescaped_token (name : String) :
    String.ofList (unescaped (Step.key name).token.toList) = name := by
  have hchars (cs : List Char) : unescaped (cs.flatMap escapedInToken) = cs := by
    induction cs with
    | nil => rfl
    | cons c cs ih => rw [List.flatMap_cons, unescaped_escapedInToken, ih]
  rw [toList_token_key, hchars, String.ofList_toList]

/-- The digits of an index write the index. -/
theorem position?_toDigits (n : Nat) : position? (Nat.toDigits 10 n) = some n := by
  by_cases hn : n = 0
  · subst hn
    rfl
  · obtain ⟨c, cs, hcs, hc⟩ := toDigits_eq_cons hn
    have hdigits : (c :: cs).all Char.isDigit = true :=
      List.all_eq_true.2 (hcs ▸ isDigit_of_mem_toDigits)
    rw [hcs, position?, hdigits, if_pos (by simp [hc]), ← hcs, Nat.ofDigitChars_ten_toDigits]

theorem slash_not_mem_token (step : Step) : '/' ∉ step.token.toList := by
  cases step with
  | key name =>
    rw [toList_token_key, List.mem_flatMap]
    rintro ⟨c, -, hc⟩
    unfold escapedInToken at hc
    split_ifs at hc with htilde hslash
    · exact absurd hc (by decide)
    · exact absurd hc (by decide)
    · exact hslash (List.mem_singleton.1 hc).symm
  | index position =>
    rw [toList_token_index]
    intro h
    exact absurd (isDigit_of_mem_toDigits _ h) (by decide)

/-- A token leads where its step does. -/
theorem atToken?_token {part : Json} (h : v.step? step = some part) :
    v.atToken? step.token.toList = some part := by
  obtain ⟨members, name, rfl, rfl, hget⟩ | ⟨items, position, rfl, rfl, hget⟩ :=
    step?_eq_some_iff.1 h
  · rw [atToken?, unescaped_token, hget]
  · rw [atToken?, toList_token_index, position?_toDigits, Option.bind_some, hget]

/-! ### Pointers -/

theorem intercalate_slash (token : List Char) (tokens : List (List Char)) :
    ['/'].intercalate (token :: tokens) = token ++ tokens.flatMap ('/' :: ·) := by
  induction tokens generalizing token with
  | nil => simp
  | cons next rest ih => simp [ih]

/-- **The pointer of a path splits into the tokens of its steps**, with nothing in front of the first
slash. -/
theorem splitOn_pointer (path : Path) :
    path.pointer.toList.splitOn '/' = [] :: path.map fun step => step.token.toList := by
  have hjoin : path.pointer.toList =
      ['/'].intercalate ([] :: path.map fun step => step.token.toList) := by
    rw [intercalate_slash, Path.pointer, String.toList_join, List.flatMap_map, List.flatMap_map]
    simp
  rw [hjoin]
  refine List.splitOn_intercalate _ (fun token htoken => ?_) (by simp)
  rcases List.mem_cons.1 htoken with rfl | htoken
  · simp
  · obtain ⟨step, -, rfl⟩ := List.mem_map.1 htoken
    exact slash_not_mem_token step

/-- **The pointer of a path leads where the path does.** -/
theorem atPointer?_pointer (h : v.at? path = some w) : v.atPointer? path.pointer = some w := by
  rw [atPointer?, splitOn_pointer]
  simp only
  induction path generalizing v with
  | nil => exact h
  | cons step rest ih =>
    obtain ⟨part, hstep, hrest⟩ := Option.bind_eq_some_iff.1 h
    rw [List.map_cons, atTokens?, atToken?_token hstep, Option.bind_some]
    exact ih hrest

/-! ### Pointers below a pointer -/

/-- A pointer is another one, or goes on behind it at a slash. The slash keeps `/rules/10` apart from
what is below `/rules/1`. -/
def AtOrBelow (outer inner : String) : Prop :=
  inner = outer ∨ ∃ rest, inner = outer ++ "/" ++ rest

/-- Steps from one value are the same if their tokens are. A key may look like an index, but no value
has both. -/
theorem step_eq_of_token_eq {other : Step} {part next : Json} (hstep : v.step? step = some part)
    (hother : v.step? other = some next) (htoken : step.token.toList = other.token.toList) :
    step = other := by
  obtain ⟨members, name, rfl, rfl, -⟩ | ⟨items, i, rfl, rfl, -⟩ := step?_eq_some_iff.1 hstep
  · obtain ⟨_, name', -, rfl, -⟩ | ⟨_, _, ⟨⟩, -, -⟩ := step?_eq_some_iff.1 hother
    rw [← unescaped_token name, ← unescaped_token name', htoken]
  · obtain ⟨_, _, ⟨⟩, -, -⟩ | ⟨_, j, -, rfl, -⟩ := step?_eq_some_iff.1 hother
    have hposition := congrArg position? htoken
    rw [toList_token_index, toList_token_index, position?_toDigits, position?_toDigits] at hposition
    rw [Option.some.inj hposition]

variable {outer inner : Path}

theorem pointer_cons (step : Step) (rest : Path) :
    Path.pointer (step :: rest) = "/" ++ step.token ++ Path.pointer rest := by
  rw [Path.pointer, List.map_cons, String.join_cons]
  rfl

theorem pointer_append (outer inner : Path) :
    Path.pointer (outer ++ inner) = outer.pointer ++ inner.pointer := by
  rw [Path.pointer, List.map_append, String.join_append]
  rfl

/-- The tokens of a pointer stand at the beginning of those of a pointer below it. -/
theorem isPrefix_tokens_of_atOrBelow (h : AtOrBelow outer.pointer inner.pointer) :
    (outer.map fun step => step.token.toList) <+: inner.map fun step => step.token.toList := by
  have hinner := splitOn_pointer inner
  rcases h with h | ⟨rest, h⟩
  · rw [h, splitOn_pointer, List.cons.injEq] at hinner
    exact ⟨[], (List.append_nil _).trans hinner.2⟩
  · have hslash : "/".toList = ['/'] := rfl
    rw [h, String.toList_append, String.toList_append, hslash, List.append_assoc,
      List.singleton_append, List.splitOn_append_cons_self, splitOn_pointer, List.cons_append,
      List.cons.injEq] at hinner
    exact ⟨_, hinner.2⟩

/-- **Of paths into one value, the pointers tell which lies below which.** -/
theorem atOrBelow_pointer_iff {part : Json} (houter : v.at? outer = some w)
    (hinner : v.at? inner = some part) :
    AtOrBelow outer.pointer inner.pointer ↔ outer <+: inner := by
  constructor
  · intro h
    have htokens := isPrefix_tokens_of_atOrBelow h
    clear h
    induction outer generalizing v inner with
    | nil => exact List.nil_prefix
    | cons step rest ih =>
      cases inner with
      | nil => exact absurd htokens (by simp)
      | cons other behind =>
        obtain ⟨next, hstep, hrest⟩ := Option.bind_eq_some_iff.1 houter
        obtain ⟨next', hother, hbehind⟩ := Option.bind_eq_some_iff.1 hinner
        rw [List.map_cons, List.map_cons, List.cons_prefix_cons] at htokens
        obtain rfl := step_eq_of_token_eq hstep hother htokens.1
        obtain rfl : next = next' := Option.some.inj (hstep.symm.trans hother)
        exact List.cons_prefix_cons.2 ⟨rfl, ih hrest hbehind htokens.2⟩
  · rintro ⟨behind, rfl⟩
    rw [pointer_append]
    cases behind with
    | nil => exact .inl (String.append_empty)
    | cons step rest =>
      refine .inr ⟨step.token ++ Path.pointer rest, ?_⟩
      rw [pointer_cons, String.append_assoc, String.append_assoc]

end ControlPlane.Json

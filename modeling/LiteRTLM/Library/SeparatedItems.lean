/-!
Contract: parsers of items between separators.

Owns: what it means that a parser reads derivations, the parsers of `( item ( SEP item )* )? CLOSE`
and of `item*` up to the end, with the tokens of each, and that they read derivations if the
parser of the items does.

Does not own: any particular grammar. A parser returns what it has read and the tokens behind it.
-/

namespace LiteRTLM.Library.SeparatedItems

universe u

variable {Token Tree : Type u}

/-- What a parser finds in front of the tokens, and the tokens behind it. -/
abbrev Parser (Token Tree : Type u) := List Token → Option (Tree × List Token)

/-- Whatever the parser reads is derived. -/
def ReadsDerivations (parser : Parser Token Tree) (derivation : Tree → List Token) : Prop :=
  ∀ {tokens tree rest}, parser tokens = some (tree, rest) → tokens = derivation tree ++ rest

/-- The parser reads this tree off its derivation, whatever follows. -/
def Reads (parser : Parser Token Tree) (derivation : Tree → List Token) (tree : Tree) : Prop :=
  ∀ rest, parser (derivation tree ++ rest) = some (tree, rest)

/-! ## Up to a closing token -/

section Enclosed

variable (separator close : Token) (derivation : Tree → List Token)

/-- The tokens of `( SEP item )*`. -/
def separatedTokens (items : List Tree) : List Token :=
  items.flatMap fun item => separator :: derivation item

/-- The tokens of `( item ( SEP item )* )? CLOSE`. -/
def enclosedTokens : List Tree → List Token
  | [] => [close]
  | first :: others => derivation first ++ (separatedTokens separator derivation others ++ [close])

theorem length_le_separatedTokens (items : List Tree) :
    items.length ≤ (separatedTokens separator derivation items).length := by
  induction items with
  | nil => exact Nat.zero_le _
  | cons first others inductionHypothesis =>
      have split : separatedTokens separator derivation (first :: others) =
          separator :: (derivation first ++ separatedTokens separator derivation others) := rfl
      rw [split, List.length_cons, List.length_cons, List.length_append]
      omega

/-- An item is shorter than what it is enclosed with. -/
theorem length_lt_enclosedTokens {tree : Tree} {items : List Tree} (member : tree ∈ items) :
    (derivation tree).length < (enclosedTokens separator close derivation items).length := by
  cases items with
  | nil => cases member
  | cons first others =>
      simp only [enclosedTokens, List.length_append, List.length_singleton]
      cases member with
      | head => omega
      | tail _ later =>
          have part : (separator :: derivation tree).Sublist
              (separatedTokens separator derivation others) := by
            rw [separatedTokens, List.flatMap_def]
            exact List.sublist_flatten_of_mem (List.mem_map_of_mem later)
          have shorter := part.length_le
          rw [List.length_cons] at shorter
          omega

variable [DecidableEq Token] (item : Parser Token Tree)

/-- `( SEP item )* CLOSE`. -/
def itemsLoop : Nat → Parser Token (List Tree)
  | 0, _ => none
  | _, [] => none
  | fuel + 1, token :: tokens =>
      if token = close then
        some ([], tokens)
      else if token = separator then do
        let (first, rest) ← item tokens
        let (others, rest) ← itemsLoop fuel rest
        return (first :: others, rest)
      else
        none

/-- `( item ( SEP item )* )? CLOSE`. -/
def enclosedItems : Parser Token (List Tree)
  | [] => none
  | token :: tokens =>
      if token = close then
        some ([], tokens)
      else do
        let (first, rest) ← item (token :: tokens)
        let (others, rest) ← itemsLoop separator close item rest.length rest
        return (first :: others, rest)

end Enclosed

section EnclosedItems

variable [DecidableEq Token] {separator close : Token} {derivation : Tree → List Token}
  {item : Parser Token Tree}

theorem itemsLoop_readsDerivations (itemReads : ReadsDerivations item derivation) (fuel : Nat) :
    ReadsDerivations (itemsLoop separator close item fuel) fun items =>
      separatedTokens separator derivation items ++ [close] := by
  induction fuel with
  | zero =>
      intro tokens items rest read
      rw [itemsLoop] at read
      cases read
  | succ fuel inductionHypothesis =>
      intro tokens items rest read
      cases tokens with
      | nil => cases read
      | cons token tokens =>
          rw [itemsLoop] at read
          by_cases closes : token = close
          · rw [if_pos closes] at read
            cases read
            rw [closes]
            rfl
          rw [if_neg closes] at read
          by_cases separates : token = separator
          · rw [if_pos separates, Option.bind_eq_bind, Option.bind_eq_some_iff] at read
            obtain ⟨⟨first, behind⟩, readFirst, read⟩ := read
            rw [Option.bind_eq_bind, Option.bind_eq_some_iff] at read
            obtain ⟨⟨others, behindAll⟩, readOthers, isRead⟩ := read
            cases isRead
            rw [itemReads readFirst, inductionHypothesis readOthers, separates]
            simp [separatedTokens]
          · rw [if_neg separates] at read
            cases read

/-- Whatever is read up to the closing token is derived. -/
theorem enclosedItems_readsDerivations (itemReads : ReadsDerivations item derivation) :
    ReadsDerivations (enclosedItems separator close item)
      (enclosedTokens separator close derivation) := by
  intro tokens items rest read
  cases tokens with
  | nil => cases read
  | cons token tokens =>
      rw [enclosedItems] at read
      by_cases closes : token = close
      · rw [if_pos closes] at read
        cases read
        rw [closes]
        rfl
      · rw [if_neg closes, Option.bind_eq_bind, Option.bind_eq_some_iff] at read
        obtain ⟨⟨first, behind⟩, readFirst, read⟩ := read
        rw [Option.bind_eq_bind, Option.bind_eq_some_iff] at read
        obtain ⟨⟨others, behindAll⟩, readOthers, isRead⟩ := read
        cases isRead
        rw [itemReads readFirst, itemsLoop_readsDerivations itemReads _ readOthers, enclosedTokens]
        simp

theorem itemsLoop_reads (distinct : separator ≠ close) (items : List Tree)
    (itemsRead : ∀ tree ∈ items, Reads item derivation tree) (fuel : Nat) (rest : List Token)
    (enough : items.length < fuel) :
    itemsLoop separator close item fuel
        (separatedTokens separator derivation items ++ (close :: rest)) = some (items, rest) := by
  induction items generalizing fuel with
  | nil =>
      obtain ⟨below, rfl⟩ := Nat.exists_eq_succ_of_ne_zero (Nat.ne_of_gt enough)
      show itemsLoop separator close item (below + 1) (close :: rest) = some ([], rest)
      rw [itemsLoop, if_pos rfl]
  | cons first others inductionHypothesis =>
      obtain ⟨below, rfl⟩ := Nat.exists_eq_succ_of_ne_zero (Nat.ne_zero_of_lt enough)
      have readFirst := itemsRead first List.mem_cons_self
        (separatedTokens separator derivation others ++ (close :: rest))
      have readOthers := inductionHypothesis
        (fun tree member => itemsRead tree (List.mem_cons_of_mem first member)) below
        (Nat.lt_of_succ_lt_succ enough)
      have split : separatedTokens separator derivation (first :: others) ++ (close :: rest) =
          separator :: (derivation first ++
            (separatedTokens separator derivation others ++ (close :: rest))) := by
        simp [separatedTokens]
      rw [split, itemsLoop, if_neg distinct, if_pos rfl, readFirst]
      dsimp only [Option.bind_eq_bind, Option.bind_some]
      rw [readOthers]
      rfl

/-- **Items up to a closing token** are read off their derivation, if each item is and none
begins with the closing token. -/
theorem enclosedItems_reads (distinct : separator ≠ close) (items : List Tree)
    (itemsRead : ∀ tree ∈ items, Reads item derivation tree)
    (opens : ∀ tree ∈ items, ∃ token behind, derivation tree = token :: behind ∧ token ≠ close) :
    Reads (enclosedItems separator close item) (enclosedTokens separator close derivation)
      items := by
  intro rest
  cases items with
  | nil =>
      show enclosedItems separator close item (close :: rest) = some ([], rest)
      rw [enclosedItems, if_pos rfl]
  | cons first others =>
      have readFirst := itemsRead first List.mem_cons_self
        (separatedTokens separator derivation others ++ (close :: rest))
      have readOthers := itemsLoop_reads distinct others
        (fun tree member => itemsRead tree (List.mem_cons_of_mem first member))
        (separatedTokens separator derivation others ++ (close :: rest)).length rest (by
          have longer := length_le_separatedTokens separator derivation others
          rw [List.length_append, List.length_cons]
          omega)
      have split : enclosedTokens separator close derivation (first :: others) ++ rest =
          derivation first ++ (separatedTokens separator derivation others ++ (close :: rest)) := by
        simp [enclosedTokens]
      obtain ⟨token, behind, isTokens, notClose⟩ := opens first List.mem_cons_self
      rw [isTokens, List.cons_append] at readFirst
      rw [split, isTokens, List.cons_append, enclosedItems, if_neg notClose, readFirst]
      dsimp only [Option.bind_eq_bind, Option.bind_some]
      rw [readOthers]
      rfl

end EnclosedItems

/-! ## Up to the end -/

section ToEnd

variable (item : Parser Token Tree)

/-- `item*`, up to the end of the tokens. -/
def itemsToEnd : Nat → List Token → Option (List Tree)
  | _, [] => some []
  | 0, _ => none
  | fuel + 1, token :: tokens => do
      let (first, rest) ← item (token :: tokens)
      let others ← itemsToEnd fuel rest
      return first :: others

variable {item} {derivation : Tree → List Token}

theorem itemsToEnd_derives (itemReads : ReadsDerivations item derivation) (fuel : Nat)
    {tokens : List Token} {items : List Tree} (read : itemsToEnd item fuel tokens = some items) :
    tokens = items.flatMap derivation := by
  induction fuel generalizing tokens items with
  | zero =>
      cases tokens with
      | nil =>
          cases read
          rfl
      | cons token tokens => cases read
  | succ fuel inductionHypothesis =>
      cases tokens with
      | nil =>
          cases read
          rfl
      | cons token tokens =>
          rw [itemsToEnd, Option.bind_eq_bind, Option.bind_eq_some_iff] at read
          obtain ⟨⟨first, behind⟩, readFirst, read⟩ := read
          rw [Option.bind_eq_bind, Option.bind_eq_some_iff] at read
          obtain ⟨others, readOthers, isRead⟩ := read
          cases isRead
          rw [itemReads readFirst, inductionHypothesis readOthers, List.flatMap_cons]

/-- Items up to the end are read off their derivation, if each item is and none is empty. -/
theorem itemsToEnd_reads (items : List Tree)
    (itemsRead : ∀ tree ∈ items, Reads item derivation tree)
    (opens : ∀ tree ∈ items, ∃ token behind, derivation tree = token :: behind) (fuel : Nat)
    (enough : items.length ≤ fuel) :
    itemsToEnd item fuel (items.flatMap derivation) = some items := by
  induction items generalizing fuel with
  | nil =>
      cases fuel with
      | zero => rfl
      | succ below => rfl
  | cons first others inductionHypothesis =>
      obtain ⟨below, rfl⟩ := Nat.exists_eq_succ_of_ne_zero (Nat.ne_zero_of_lt enough)
      have readFirst := itemsRead first List.mem_cons_self (others.flatMap derivation)
      have readOthers := inductionHypothesis
        (fun tree member => itemsRead tree (List.mem_cons_of_mem first member))
        (fun tree member => opens tree (List.mem_cons_of_mem first member)) below
        (Nat.le_of_succ_le_succ enough)
      obtain ⟨token, behind, isTokens⟩ := opens first List.mem_cons_self
      rw [isTokens, List.cons_append] at readFirst
      rw [List.flatMap_cons, isTokens, List.cons_append, itemsToEnd, readFirst]
      dsimp only [Option.bind_eq_bind, Option.bind_some]
      rw [readOthers]
      rfl

/-- Items that are not empty have at least a token each. -/
theorem length_le_length_flatMap (items : List Tree)
    (opens : ∀ tree ∈ items, ∃ token behind, derivation tree = token :: behind) :
    items.length ≤ (items.flatMap derivation).length := by
  induction items with
  | nil => exact Nat.zero_le _
  | cons first others inductionHypothesis =>
      have shorter := inductionHypothesis
        fun tree member => opens tree (List.mem_cons_of_mem first member)
      obtain ⟨token, behind, isTokens⟩ := opens first List.mem_cons_self
      rw [List.flatMap_cons, List.length_append, isTokens, List.length_cons, List.length_cons]
      omega

end ToEnd

end LiteRTLM.Library.SeparatedItems

import ClusterMigration.Yaml.Lexer

/-!
# Nodes

A document as a tree. Where its text stops being readable the tree ends in a cut, so
that what was readable before can still be judged.

Aliases point at slots. An anchor takes the slot whose number is that of the names
seen so far, also where it repeats a name, and of several anchors with one slot the
last one counts.
-/

namespace ClusterMigration

namespace Yaml

structure Properties where
  tag : Option String := none
  slot : Option Nat := none

inductive Node where
  | scalar (properties : Properties) (form : ScalarForm) (text : String)
  | sequence (properties : Properties) (items : List Node)
  | mapping (properties : Properties) (members : List (Node × Node))
  | alias (slot : Nat)
  | cut

instance : Inhabited Node := ⟨.cut⟩

namespace Node

def absent : Node := .scalar {} .plain ""

/-! ## Building nodes from tokens -/

/-- The tokens that are left, and the slot of each anchor name. -/
structure Builder where
  tokens : List Token
  slots : List (String × Nat) := []

namespace Builder

def stop (b : Builder) : Builder := { b with tokens := [] }

def skip (b : Builder) : Builder := { b with tokens := b.tokens.drop 1 }

def peek (b : Builder) : Option Token := b.tokens.head?

def bind (name : String) (b : Builder) : Nat × Builder :=
  let slot := b.slots.length
  let others := b.slots.filter (·.1 != name)
  (slot, { b with slots := (name, slot) :: others })

/-- The leads of tag handles, those of the document before the general ones. -/
abbrev Handles := List (String × String)

def generalHandles : Handles := [("!", "!"), ("!!", "tag:yaml.org,2002:")]

def resolveTag (handles : Handles) (handle rest : String) : Option String :=
  if handle.isEmpty then some rest else (handles.lookup handle).map (· ++ rest)

/-- An anchor and a tag in either order, each at most once. -/
structure Given where
  anchor : Option String := none
  tag : Option (String × String) := none

def given (b : Builder) : Given × Builder :=
  match b.tokens with
  | .anchor a :: .tag h r :: rest => (⟨some a, some (h, r)⟩, { b with tokens := rest })
  | .tag h r :: .anchor a :: rest => (⟨some a, some (h, r)⟩, { b with tokens := rest })
  | .anchor a :: rest => (⟨some a, none⟩, { b with tokens := rest })
  | .tag h r :: rest => (⟨none, some (h, r)⟩, { b with tokens := rest })
  | _ => ({}, b)

def tagOf (handles : Handles) (g : Given) : Option (Option String) :=
  match g.tag with
  | none => some none
  | some (handle, rest) => (resolveTag handles handle rest).map some

def place (anchor : Option String) (b : Builder) : Option Nat × Builder :=
  match anchor with
  | none => (none, b)
  | some name => let (slot, b) := b.bind name; (some slot, b)

/-- Tokens after a key or a colon that mean that no node is written. -/
def endsBlockMember : Option Token → Bool
  | some .key | some .value | some .blockEnd => true
  | _ => false

mutual

/-- A node. `block` allows block collections, and `flush` sequences that are not
indented more than their key. -/
def node (handles : Handles) (block flush : Bool) : Nat → Builder → Node × Builder
  | 0, b => (.cut, b.stop)
  | steps + 1, b =>
    match b.tokens with
    | .alias name :: _ =>
      match b.slots.lookup name with
      | some slot => (.alias slot, b.skip)
      | none => (.cut, b.stop)
    | _ =>
      let (g, b) := b.given
      match tagOf handles g, b.peek with
      | none, _ | _, none => (.cut, b.stop)
      | some tag, some token =>
        let (slot, placed) := b.place g.anchor
        let sequence (items : List Node × Builder) := (sequence ⟨tag, slot⟩ items.1, items.2)
        let mapping (ms : List (Node × Node) × Builder) := (mapping ⟨tag, slot⟩ ms.1, ms.2)
        match token with
        | .scalar form text => (.scalar ⟨tag, slot⟩ form text, placed.skip)
        | .openSequence => sequence (flowItems handles true steps placed.skip)
        | .openMapping => mapping (flowMembers handles true steps placed.skip)
        | .blockSequence =>
          if block then sequence (blockItems handles steps placed.skip) else (.cut, b.stop)
        | .blockMapping =>
          if block then mapping (blockMembers handles steps placed.skip) else (.cut, b.stop)
        | .entry =>
          if flush then sequence (flushItems handles steps placed)
          else if tag.isSome ∨ g.anchor.isSome then (.scalar ⟨tag, slot⟩ .plain "", placed)
          else (.cut, b.stop)
        | _ =>
          if tag.isSome ∨ g.anchor.isSome then (.scalar ⟨tag, slot⟩ .plain "", placed)
          else (.cut, b.stop)

def blockItems (handles : Handles) : Nat → Builder → List Node × Builder
  | 0, b => ([.cut], b.stop)
  | steps + 1, b =>
    match b.peek with
    | some .entry =>
      let b := b.skip
      let (item, b) := match b.peek with
        | some .entry | some .blockEnd => (absent, b)
        | _ => node handles true false steps b
      let (items, b) := blockItems handles steps b
      (item :: items, b)
    | some .blockEnd => ([], b.skip)
    | _ => ([.cut], b.stop)

def flushItems (handles : Handles) : Nat → Builder → List Node × Builder
  | 0, b => ([.cut], b.stop)
  | steps + 1, b =>
    match b.peek with
    | some .entry =>
      let b := b.skip
      let (item, b) := match b.peek with
        | some .entry | some .key | some .value | some .blockEnd => (absent, b)
        | _ => node handles true false steps b
      let (items, b) := flushItems handles steps b
      (item :: items, b)
    | some _ => ([], b)
    | none => ([.cut], b)

def blockMembers (handles : Handles) : Nat → Builder → List (Node × Node) × Builder
  | 0, b => ([(.cut, .cut)], b.stop)
  | steps + 1, b =>
    match b.peek with
    | some .key =>
      let b := b.skip
      let (key, b) :=
        if endsBlockMember b.peek then (absent, b) else node handles true true steps b
      let (value, b) := blockValue handles steps b
      let (members, b) := blockMembers handles steps b
      ((key, value) :: members, b)
    | some .blockEnd => ([], b.skip)
    | _ => ([(.cut, .cut)], b.stop)

def blockValue (handles : Handles) : Nat → Builder → Node × Builder
  | 0, b => (.cut, b.stop)
  | steps + 1, b =>
    match b.peek with
    | some .value =>
      let b := b.skip
      if endsBlockMember b.peek then (absent, b) else node handles true true steps b
    | some _ => (absent, b)
    | none => (.cut, b)

/-- The items of a flow sequence. A key among them makes a mapping of one member. -/
def flowItems (handles : Handles) (first : Bool) : Nat → Builder → List Node × Builder
  | 0, b => ([.cut], b.stop)
  | steps + 1, b =>
    match b.peek with
    | some .closeSequence => ([], b.skip)
    | some token =>
      if !first ∧ token ≠ .separator then ([.cut], b.stop)
      else
        let b := if first then b else b.skip
        match b.peek with
        | some .closeSequence => ([], b.skip)
        | some .key =>
          let (member, b) := flowPair handles steps b.skip
          let others := if b.peek.isSome then [] else [(cut, cut)]
          let (items, b) := flowItems handles false steps b
          (.mapping {} (member :: others) :: items, b)
        | some _ =>
          let (item, b) := node handles false false steps b
          let (items, b) := flowItems handles false steps b
          (item :: items, b)
        | none => ([.cut], b)
    | none => ([.cut], b)

/-- A member of its own in a flow sequence. Where the key is not written the token
after it is passed over. -/
def flowPair (handles : Handles) : Nat → Builder → (Node × Node) × Builder
  | 0, b => ((.cut, .cut), b.stop)
  | steps + 1, b =>
    let (key, b) := match b.peek with
      | some .value | some .separator | some .closeSequence => (absent, b.skip)
      | _ => node handles false false steps b
    let (value, b) := match b.peek with
      | some .value =>
        let b := b.skip
        match b.peek with
        | some .separator | some .closeSequence => (absent, b)
        | _ => node handles false false steps b
      | some _ => (absent, b)
      | none => (cut, b)
    ((key, value), b)

def flowMembers (handles : Handles) (first : Bool) :
    Nat → Builder → List (Node × Node) × Builder
  | 0, b => ([(.cut, .cut)], b.stop)
  | steps + 1, b =>
    match b.peek with
    | some .closeMapping => ([], b.skip)
    | some token =>
      if !first ∧ token ≠ .separator then ([(.cut, .cut)], b.stop)
      else
        let b := if first then b else b.skip
        match b.peek with
        | some .closeMapping => ([], b.skip)
        | some .key =>
          let b := b.skip
          let (key, b) := match b.peek with
            | some .value | some .separator | some .closeMapping => (absent, b)
            | _ => node handles false false steps b
          let (value, b) := flowValue handles steps b
          let (members, b) := flowMembers handles false steps b
          ((key, value) :: members, b)
        | some _ =>
          let (key, b) := node handles false false steps b
          let value := if b.peek.isSome then absent else cut
          let (members, b) := flowMembers handles false steps b
          ((key, value) :: members, b)
        | none => ([(.cut, .cut)], b)
    | none => ([(.cut, .cut)], b)

def flowValue (handles : Handles) : Nat → Builder → Node × Builder
  | 0, b => (.cut, b.stop)
  | steps + 1, b =>
    match b.peek with
    | some .value =>
      let b := b.skip
      match b.peek with
      | some .separator | some .closeMapping => (absent, b)
      | _ => node handles false false steps b
    | some _ => (absent, b)
    | none => (.cut, b)

end

end Builder

/-! ## Views of nodes -/

mutual

def isWhole : Node → Bool
  | .sequence _ items => areWhole items
  | .mapping _ members => haveWhole members
  | .cut => false
  | _ => true

def areWhole : List Node → Bool
  | [] => true
  | item :: rest => item.isWhole && areWhole rest

def haveWhole : List (Node × Node) → Bool
  | [] => true
  | (key, value) :: rest => key.isWhole && value.isWhole && haveWhole rest

end

def properties : Node → Properties
  | .scalar p _ _ => p
  | .sequence p _ => p
  | .mapping p _ => p
  | _ => {}

mutual

/-- The anchored nodes in the order in which they begin. -/
def anchored (n : Node) : List (Nat × Node) :=
  let own := n.properties.slot.toList.map (·, n)
  match n with
  | .sequence _ items => own ++ anchoredItems items
  | .mapping _ members => own ++ anchoredMembers members
  | _ => own

def anchoredItems : List Node → List (Nat × Node)
  | [] => []
  | item :: rest => item.anchored ++ anchoredItems rest

def anchoredMembers : List (Node × Node) → List (Nat × Node)
  | [] => []
  | (key, value) :: rest => key.anchored ++ value.anchored ++ anchoredMembers rest

end

mutual

/-- How many marks a node takes: one for a scalar or an alias, one for each end of a
collection. -/
def size : Node → Nat
  | .sequence _ items => sizeItems items + 1
  | .mapping _ members => sizeMembers members + 1
  | .cut => 0
  | _ => 1

def sizeItems : List Node → Nat
  | [] => 1
  | .cut :: _ => 0
  | item :: rest => item.size + if item.isWhole then sizeItems rest else 0

def sizeMembers : List (Node × Node) → Nat
  | [] => 1
  | (.cut, _) :: _ => 0
  | (key, value) :: rest =>
    key.size + value.size + if key.isWhole && value.isWhole then sizeMembers rest else 0

end

end Node

end Yaml

end ClusterMigration

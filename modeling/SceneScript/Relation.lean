import SceneScript.Number
import SceneScript.Token

/-!
Spatial relations between entities, the phrases that name them, and where a phrase stands in a list of
tokens. Parentheses shield their contents: phrases and separators inside them do not count.
-/

namespace SceneScript

inductive Relation where
  | nextTo | behind | inFrontOf | leftOf | rightOf | above | below | near
  deriving Repr, DecidableEq, Inhabited

namespace Relation

def all : List Relation := [nextTo, behind, inFrontOf, leftOf, rightOf, above, below, near]

/-- The name of a relation in scene data. -/
def name : Relation → String
  | nextTo => "next_to"
  | behind => "behind"
  | inFrontOf => "in_front_of"
  | leftOf => "left_of"
  | rightOf => "right_of"
  | above => "above"
  | below => "below"
  | near => "near"

def ofName? (name : String) : Option Relation := all.find? (·.name == name)

/-- The words that state a relation. -/
def phrase : Relation → List String
  | nextTo => ["NEXT", "TO"]
  | behind => ["BEHIND"]
  | inFrontOf => ["IN", "FRONT", "OF"]
  | leftOf => ["LEFT", "OF"]
  | rightOf => ["RIGHT", "OF"]
  | above => ["ABOVE"]
  | below => ["BELOW"]
  | near => ["NEAR"]

/-- How far an entity stands from its target. Distances stated in a clause do not change it. -/
def offset : Relation → Int × Int × Int
  | nextTo => (150, 0, 0)
  | behind => (0, 50, -30)
  | inFrontOf => (0, 100, 30)
  | leftOf => (-150, 0, 0)
  | rightOf => (150, 0, 0)
  | above => (0, -150, 0)
  | below => (0, 150, 0)
  | near => (80, 80, 0)

/-- A stated distance, or the usual one if none or zero is stated. -/
def distanceOr (usual : Int) (distance : Option Number) : Number :=
  match distance with
  | some d => if d.isZero then .int usual else d
  | none => .int usual

/-- The coordinate that stands in until the target is known. -/
def standIn (r : Relation) (distance : Option Number) : Number × Number × Number :=
  match r with
  | nextTo | rightOf => (distanceOr 80 distance, 0, 0)
  | leftOf => ((distanceOr 80 distance).negate, 0, 0)
  | above => (0, (distanceOr 80 distance).negate, 0)
  | below => (0, distanceOr 80 distance, 0)
  | near => (distanceOr 50 distance, distanceOr 50 distance, 0)
  | behind => (0, 50, .int (-30))
  | inFrontOf => (0, .int (-50), 30)

end Relation

/-- What opens a position clause: `AT` or a relation. -/
inductive Lead where
  | at
  | relation (r : Relation)
  deriving Repr, DecidableEq, Inhabited

namespace Lead

def phrase : Lead → List String
  | .at => ["AT"]
  | .relation r => r.phrase

/-- All leads, those of more words first. -/
def all : List Lead :=
  [.relation .inFrontOf, .relation .nextTo, .relation .leftOf, .relation .rightOf, .relation .behind,
    .relation .above, .relation .below, .relation .near, .at]

/-- The words stand at the front of the tokens. -/
def opens (words : List String) (tokens : List Token) : Bool :=
  match words, tokens with
  | [], _ => true
  | _ :: _, [] => false
  | w :: words, t :: tokens => t.isWord [w] && opens words tokens

/-- The lead at the front of the tokens. -/
def of? (tokens : List Token) : Option Lead := all.find? fun l => opens l.phrase tokens

end Lead

namespace Token

/-- The depth of parentheses after a token; one that closes nothing is ignored. -/
def depthAfter (depth : Nat) (t : Token) : Nat :=
  match t.kind with
  | .leftParen => depth + 1
  | .rightParen => depth - 1
  | _ => depth

/-- The groups between the separators outside parentheses, empty ones kept. -/
def splitGroupsFrom (isSeparator : Token → Bool) (depth : Nat) : List Token → List (List Token)
  | [] => [[]]
  | t :: rest =>
    let groups := splitGroupsFrom isSeparator (depthAfter depth t) rest
    if depthAfter depth t = 0 && isSeparator t then [] :: groups
    else
      match groups with
      | [] => [[t]]
      | group :: groups => (t :: group) :: groups

def splitGroups (isSeparator : Token → Bool) (tokens : List Token) : List (List Token) :=
  splitGroupsFrom isSeparator 0 tokens

/-- The word that joins the clauses of an attribute section. -/
def isAnd (t : Token) : Bool := t.isWord ["AND"]

def isComma (t : Token) : Bool := t.kind = .comma

/-- How many tokens come before the first lead outside parentheses, if there is one. -/
def findLeadFrom (depth : Nat) (tokens : List Token) : Option Nat :=
  match tokens with
  | [] => none
  | t :: rest =>
    if depth = 0 && (Lead.of? (t :: rest)).isSome then some 0
    else (findLeadFrom (depthAfter depth t) rest).map (· + 1)

def findLead (tokens : List Token) : Option Nat := findLeadFrom 0 tokens

theorem splitGroupsFrom_ne_nil (isSeparator : Token → Bool) (depth : Nat) (tokens : List Token) :
    splitGroupsFrom isSeparator depth tokens ≠ [] := by
  cases tokens with
  | nil => simp [splitGroupsFrom]
  | cons t rest =>
    simp only [splitGroupsFrom]
    split
    · simp
    · split <;> simp

end Token

end SceneScript

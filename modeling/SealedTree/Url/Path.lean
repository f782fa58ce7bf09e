import SealedTree.Text.Parts
import SealedTree.Url.Percent

/-!
Paths of URLs. A part that is one point leads nowhere, one that is two points leads back; both may
be written with percent signs. At the end of a path such a part leaves an empty one. A letter with a
colon is a drive, and there is no way back out of it.
-/

namespace SealedTree

namespace Url

inductive Path
  /-- A path without steps, of a URL that leads to no machine. -/
  | plain (text : String)
  | steps (parts : List String)
  deriving DecidableEq

namespace Path

/-- Tabs and line ends count for nothing in a URL. -/
def isBreak (c : Char) : Bool := c = '\t' || c = '\n' || c = '\r'

def bare (cs : List Char) : List Char := cs.filter (!isBreak ·)

def lower (part : String) : String := String.ofList (part.toList.map Char.toLower)

def isHere (part : String) : Bool := [".", "%2e"].contains (lower part)

def isBack (part : String) : Bool := ["..", ".%2e", "%2e.", "%2e%2e"].contains (lower part)

/-- The name of a drive: a letter, and a colon or a bar. -/
def isDrive : List Char → Bool
  | [letter, colon] => letter.isAlpha && (colon = ':' || colon = '|')
  | _ => false

/-- Parts that no way leads back out of; a backslash may follow the drive. -/
def isRoot (part : String) : Bool :=
  isDrive (part.toList.take 2) && (part.toList.drop 2).head?.all (· = '\\')

def back (parts : List String) : List String :=
  if parts.getLast?.any isRoot then parts else parts.dropLast

/-- The name of a drive, and what follows it after a break. -/
def cutDrive? (part : List Char) : Option (String × String) :=
  match part.dropWhile isBreak with
  | [] => none
  | letter :: rest =>
      match rest.dropWhile isBreak with
      | ':' :: c :: rest =>
          if letter.isAlpha ∧ isBreak c ∧ bare rest ≠ [] then
            some (String.ofList [letter, ':'], Percent.encode Percent.inPath (bare rest))
          else none
      | _ => none

structure Way where
  parts : List String := []
  /-- Whether it leads to a drive of the machine where the path is read. -/
  onDrive : Bool := false

/-- The first part of the path of a file. A drive is written with a colon. A break behind the name
of a drive is as good as a slash, but what follows it is no step of its own. -/
def Way.enter (way : Way) (part : List Char) : Way :=
  match cutDrive? part with
  | some (drive, rest) => { way with parts := [drive, rest] }
  | none =>
      let cs := bare part
      if isDrive cs then { parts := [String.ofList (cs.take 1 ++ [':'])], onDrive := true }
      else { way with parts := [Percent.encode Percent.inPath cs] }

def Way.step (ofFile : Bool) (way : Way) (part : List Char) (atEnd : Bool) : Way :=
  let text := Percent.encode Percent.inPath (bare part)
  let last := if atEnd then [""] else []
  if isBack text then { way with parts := back way.parts ++ last }
  else if isHere text then { way with parts := way.parts ++ last }
  else if ofFile ∧ way.parts.isEmpty then way.enter part
  else { way with parts := way.parts ++ [text] }

def Way.walk (ofFile : Bool) : Way → List (List Char) → Way
  | way, [] => way
  | way, part :: rest => Way.walk ofFile (way.step ofFile part rest.isEmpty) rest

def follow (ofFile : Bool) (parts : List (List Char)) : Way := Way.walk ofFile {} parts

/-- The parts of the path of a file: empty ones at its front count for nothing. -/
def withoutBlankFront (parts : List String) : List String :=
  match parts.dropWhile (· = "") with
  | [] => [""]
  | parts => parts

def text : Path → String
  | .plain text => text
  | .steps parts => String.join (parts.map ("/" ++ ·))

theorem back_subset (parts : List String) : ∀ p ∈ back parts, p ∈ parts := by
  intro p hp
  unfold back at hp
  split at hp
  · exact hp
  · exact List.dropLast_subset _ hp

theorem Way.step_moves {way : Way} {part : List Char} {atEnd : Bool}
    (h : ∀ p ∈ way.parts, isHere p = false ∧ isBack p = false) :
    ∀ p ∈ (way.step false part atEnd).parts, isHere p = false ∧ isBack p = false := by
  have blank : isHere "" = false ∧ isBack "" = false := by decide
  intro p hp
  unfold Way.step at hp
  simp only [Bool.false_eq_true, false_and, if_false] at hp
  split at hp
  · rcases List.mem_append.1 hp with hp | hp
    · exact h p (back_subset _ p hp)
    · split at hp <;> simp_all
  · next hb =>
      split at hp
      · rcases List.mem_append.1 hp with hp | hp
        · exact h p hp
        · split at hp <;> simp_all
      · next hh =>
          rcases List.mem_append.1 hp with hp | hp
          · exact h p hp
          · simp_all

theorem Way.walk_moves (parts : List (List Char)) (way : Way)
    (h : ∀ p ∈ way.parts, isHere p = false ∧ isBack p = false) :
    ∀ p ∈ (Way.walk false way parts).parts, isHere p = false ∧ isBack p = false := by
  induction parts generalizing way with
  | nil => exact h
  | cons part rest ih =>
      unfold Way.walk
      exact ih _ (Way.step_moves h)

end Path

end Url

end SealedTree

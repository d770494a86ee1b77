import CanaryGate.Http.HostLetter
import CanaryGate.Http.Punycode
import CanaryGate.Text.Composition
import CanaryGate.Text.Direction
import CanaryGate.Text.Joining
import CanaryGate.Text.Script

/-!
# Host names

Names of hosts in any script, label by label, and their plain form. A label holds letters of names, and some
signs only in certain company; it is composed, its hyphens stand inside, it starts with no mark, and its
directions fit together.
-/

namespace CanaryGate

namespace Http

namespace HostName

/-- The most characters of a name with the dot of the root behind it. -/
def nameLimit : Nat := 254

/-- The most characters of a label in its plain form. -/
def labelLimit : Nat := 63

/-- What a label in plain form starts with if it stands for another one. -/
def mark : List Char := "xn--".toList

/-- The hyphens stand inside, and not both third and fourth. -/
def hyphensFit (label : List Char) : Bool :=
  label.head? != some '-' && label.getLast? != some '-' && (label.drop 2).take 2 != ['-', '-']

/-- The joiners, which cannot be seen, stand behind a sign that kills a vowel; the one that keeps letters apart
stands also where they would join. What stands before it is given backwards. -/
def joinerFits (c : Char) (before rest : List Char) : Bool :=
  before.head?.any (fun last => Mark.rank last = Mark.killerRank)
    || (c.toNat = 0x200C && Joining.joined before rest)

/-- A sign that is not a letter of names stands in company that makes it one. What stands before it is given
backwards. -/
def signFits (c : Char) (before rest : List Char) : Bool :=
  let all := before ++ rest
  if c.toNat = 0xB7 then before.head? = some 'l' && rest.head? = some 'l'
  else if c.toNat = 0x375 then rest.head?.any Script.isGreek
  else if c.toNat = 0x5F3 || c.toNat = 0x5F4 then before.head?.any Script.isHebrew
  else if c.toNat = 0x30FB then all.any fun d => d != c && Script.isJapanese d
  else if inRuns [(0x660, 0x669)] c then !all.any (inRuns [(0x6F0, 0x6F9)])
  else if inRuns [(0x6F0, 0x6F9)] c then !all.any (inRuns [(0x660, 0x669)])
  else if inRuns [(0x200C, 0x200D)] c then joinerFits c before rest
  else false

/-- Every character fits in its place behind a text that is given backwards. -/
def charactersFit : (before : List Char) → List Char → Bool
  | _, [] => true
  | before, c :: rest => (HostLetter.isLetter c || signFits c before rest) && charactersFit (c :: before) rest

def isLabel (label : List Char) : Bool :=
  !label.isEmpty && decide (label.length ≤ nameLimit) && hyphensFit label && !label.head?.any Mark.isMark
    && charactersFit [] label && Composition.isComposed label && Direction.fit (label.map Direction.ofChar)

/-- A plain label: a label itself, or one that stands for a label. -/
def isPlainLabel (label : List Char) : Bool :=
  if mark.isPrefixOf label then
    let written := label.drop mark.length
    !written.isEmpty && written.getLast? != some '-' && (Punycode.decode written).any isLabel
  else isLabel label

def plainLabel? (label : List Char) : Option (List Char) :=
  let isPlain := label.all Punycode.isPlain
  let plain := if isPlain then label else mark ++ Punycode.encode label
  if (if isPlain then isPlainLabel label else isLabel label) && decide (plain.length ≤ labelLimit) then some plain
  else none

/-- The marks between labels. -/
def dots : List Nat := [0x2E, 0x3002, 0xFF0E, 0xFF61]

/-- The plain form of a name. A dot at the end stands for the root. -/
def plain? (name : List Char) : Option (List Char) := do
  let labels := pieces '.' (name.map fun c => if dots.contains c.toNat then '.' else c)
  let isRooted := labels.getLast? = some []
  let plain ← (if isRooted then labels.dropLast else labels).mapM plainLabel?
  let plain := joinPieces '.' plain ++ if isRooted then ['.'] else []
  if name.length ≤ nameLimit && plain.length ≤ (if isRooted then nameLimit else nameLimit - 1) then some plain else none

/-- Plain labels are short enough for the service that looks names up. -/
theorem length_plainLabel?_le {label plain : List Char} (h : plainLabel? label = some plain) :
    plain.length ≤ labelLimit := by
  unfold plainLabel? at h
  simp only [Option.ite_none_right_eq_some, Bool.and_eq_true, decide_eq_true_eq, Option.some.injEq] at h
  rw [← h.2]
  exact h.1.2

end HostName

end Http

end CanaryGate

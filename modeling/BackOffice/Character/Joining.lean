import BackOffice.Character.Category
import BackOffice.Character.Composition

/-!
# Joining letters

In some scripts letters join their neighbours. Two characters without a look of their own steer
that: the joiner and the non-joiner. In a name each of them may stand only where it makes a
difference (`joinersFit`), or names would differ that look alike. The charts here say nothing of
characters that the name of a host cannot have.
-/

namespace BackOffice.Character

/-- The letters that join the letter behind them. -/
def joinsNext : CharSet :=
  .ofLines [
    "620 626 628 62a-62e 633-63f 641-647 649-64a 66e-66f 679-687 69a-6bf 6c1-6c2 6cc 6ce 6d0-6d1",
    "6fa-6fc 6ff 712-714 71a-71d 71f-727 729 72b 72d-72e 74e-758 75c-76a 76d-770 772 775-777",
    "77a-77f 7ca-7ea 841-845 848 84a-853 855 860 862-865 868 886 889-88d 88f 8a0-8a9 8af-8b0",
    "8b3-8b8 8ba-8c8 1807 1820-1878 1887-18a8 18aa a840-a872 10ac0-10ac4 10acd 10ad3-10adc",
    "10ade-10ae0 10aeb-10aee 10b80 10b82 10b86-10b88 10b8a-10b8b 10b8d 10b90 10bad-10bae",
    "10d00-10d21 10d23 10ec3-10ec4 10ec6-10ec7 10f30-10f32 10f34-10f44 10f51-10f53 10f70-10f73",
    "10f76-10f81 10fb0 10fb2-10fb3 10fb8 10fbb-10fbc 10fbe-10fbf 10fc1 10fc4 10fca-10fcb",
    "1e922-1e943"]

/-- The letters that join the letter before them. -/
def joinsPrevious : CharSet :=
  .ofLines [
    "620 622-63f 641-64a 66e-66f 671-673 679-6d3 6d5 6ee-6ef 6fa-6fc 6ff 710 712-72f 74d-77f",
    "7ca-7ea 840-858 860 862-865 867-882 886 889-88f 8a0-8ac 8ae-8c8 1807 1820-1878 1887-18a8",
    "18aa a840-a871 10ac0-10ac5 10ac7 10ac9-10aca 10ace-10ad6 10ad8-10ae1 10ae4 10aeb-10aef",
    "10b80-10b91 10ba9-10bae 10d01-10d23 10ec2-10ec4 10ec6-10ec7 10f30-10f44 10f51-10f54",
    "10f70-10f81 10fb0 10fb2-10fb6 10fb8-10fbf 10fc1-10fc4 10fc9-10fca 1e922-1e943"]

/-- Whether a character does not stand between letters that join: a mark, or the one letter that
counts as a mark. -/
def isTransparent (c : Char) : Bool :=
  c.toNat == 0x1e94b || nonspacingMarks.contains c

/-- Asks for neighbours to be kept apart. -/
def nonJoiner : Char := '\u200c'

/-- Asks for neighbours to be joined. -/
def joiner : Char := '\u200d'

/-- Whether the first character of a text that is not transparent is in a set. -/
def reaches (s : CharSet) (cs : List Char) : Bool :=
  (cs.dropWhile fun c => !s.contains c && isTransparent c).head?.any s.contains

/-- Whether a joiner or a non-joiner may stand between two texts, the first of which is given
backwards: behind a sign that mutes a vowel either of them may, and a non-joiner between letters
that would join. -/
def joinerFits (before : List Char) (c : Char) (after : List Char) : Bool :=
  before.head?.any (combiningClass · == muting) ||
    (c == nonJoiner && reaches joinsNext before && reaches joinsPrevious after)

/-- Whether all joiners and non-joiners of a text may stand where they do; `before` is what comes
before the text, backwards. -/
def joinersFitFrom (before : List Char) : List Char → Bool
  | [] => true
  | c :: cs =>
    ((c != joiner && c != nonJoiner) || joinerFits before c cs) && joinersFitFrom (c :: before) cs

/-- Whether all joiners and non-joiners of a label may stand where they do. -/
def joinersFit (label : List Char) : Bool :=
  joinersFitFrom [] label

end BackOffice.Character

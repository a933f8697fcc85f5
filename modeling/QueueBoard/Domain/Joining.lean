import QueueBoard.Domain.Composites
import QueueBoard.Domain.Marks

/-! # Joiners

Two characters without a shape of their own ask the letters around them to join or not to join. Either
may follow a mark that cuts off the vowel of a consonant. Otherwise only the one that keeps letters
apart may be given, and only between letters that would be joined without it.
-/
namespace QueueBoard.Domain

/-- The sides on which a letter is joined to another one. -/
inductive Joining
  | both
  | after
  | before
deriving DecidableEq, Repr

/-- The letters that are kept and are joined. -/
def joinings : CodeTable Joining := [
  (0x620, 0x620, .both), (0x622, 0x625, .before), (0x626, 0x626, .both), (0x627, 0x627, .before),
  (0x628, 0x628, .both), (0x629, 0x629, .before), (0x62a, 0x62e, .both), (0x62f, 0x632, .before),
  (0x633, 0x63f, .both), (0x641, 0x647, .both), (0x648, 0x648, .before), (0x649, 0x64a, .both),
  (0x66e, 0x66f, .both), (0x671, 0x673, .before), (0x679, 0x687, .both), (0x688, 0x699, .before),
  (0x69a, 0x6bf, .both), (0x6c0, 0x6c0, .before), (0x6c1, 0x6c2, .both), (0x6c3, 0x6cb, .before),
  (0x6cc, 0x6cc, .both), (0x6cd, 0x6cd, .before), (0x6ce, 0x6ce, .both), (0x6cf, 0x6cf, .before),
  (0x6d0, 0x6d1, .both), (0x6d2, 0x6d3, .before), (0x6d5, 0x6d5, .before), (0x6ee, 0x6ef, .before),
  (0x6fa, 0x6fc, .both), (0x6ff, 0x6ff, .both), (0x710, 0x710, .before), (0x712, 0x714, .both),
  (0x715, 0x719, .before), (0x71a, 0x71d, .both), (0x71e, 0x71e, .before), (0x71f, 0x727, .both),
  (0x728, 0x728, .before), (0x729, 0x729, .both), (0x72a, 0x72a, .before), (0x72b, 0x72b, .both),
  (0x72c, 0x72c, .before), (0x72d, 0x72e, .both), (0x72f, 0x74d, .before), (0x74e, 0x758, .both),
  (0x759, 0x75b, .before), (0x75c, 0x76a, .both), (0x76b, 0x76c, .before), (0x76d, 0x770, .both),
  (0x771, 0x771, .before), (0x772, 0x772, .both), (0x773, 0x774, .before), (0x775, 0x777, .both),
  (0x778, 0x779, .before), (0x77a, 0x77f, .both), (0x7ca, 0x7ea, .both), (0x840, 0x840, .before),
  (0x841, 0x845, .both), (0x846, 0x847, .before), (0x848, 0x848, .both), (0x849, 0x849, .before),
  (0x84a, 0x853, .both), (0x854, 0x854, .before), (0x855, 0x855, .both), (0x856, 0x858, .before),
  (0x860, 0x860, .both), (0x862, 0x865, .both), (0x867, 0x867, .before), (0x868, 0x868, .both),
  (0x869, 0x882, .before), (0x886, 0x886, .both), (0x889, 0x88d, .both), (0x88e, 0x88e, .before),
  (0x88f, 0x8a9, .both), (0x8aa, 0x8ac, .before), (0x8ae, 0x8ae, .before), (0x8af, 0x8b0, .both),
  (0x8b1, 0x8b2, .before), (0x8b3, 0x8b8, .both), (0x8b9, 0x8b9, .before), (0x8ba, 0x8c8, .both),
  (0x1807, 0x1807, .both), (0x1820, 0x1878, .both), (0x1887, 0x18aa, .both),
  (0xa840, 0xa871, .both), (0xa872, 0xa872, .after), (0x10ac0, 0x10ac4, .both),
  (0x10ac5, 0x10ac5, .before), (0x10ac7, 0x10ac7, .before), (0x10ac9, 0x10aca, .before),
  (0x10acd, 0x10acd, .after), (0x10ace, 0x10ad2, .before), (0x10ad3, 0x10ad6, .both),
  (0x10ad7, 0x10ad7, .after), (0x10ad8, 0x10adc, .both), (0x10add, 0x10add, .before),
  (0x10ade, 0x10ae0, .both), (0x10ae1, 0x10ae1, .before), (0x10ae4, 0x10ae4, .before),
  (0x10aeb, 0x10aee, .both), (0x10aef, 0x10aef, .before), (0x10b80, 0x10b80, .both),
  (0x10b81, 0x10b81, .before), (0x10b82, 0x10b82, .both), (0x10b83, 0x10b85, .before),
  (0x10b86, 0x10b88, .both), (0x10b89, 0x10b89, .before), (0x10b8a, 0x10b8b, .both),
  (0x10b8c, 0x10b8c, .before), (0x10b8d, 0x10b8d, .both), (0x10b8e, 0x10b8f, .before),
  (0x10b90, 0x10b90, .both), (0x10b91, 0x10b91, .before), (0x10ba9, 0x10bac, .before),
  (0x10bad, 0x10bae, .both), (0x10d00, 0x10d00, .after), (0x10d01, 0x10d21, .both),
  (0x10d22, 0x10d22, .before), (0x10d23, 0x10d23, .both), (0x10ec2, 0x10ec2, .before),
  (0x10ec3, 0x10ec4, .both), (0x10ec6, 0x10ec7, .both), (0x10f30, 0x10f32, .both),
  (0x10f33, 0x10f33, .before), (0x10f34, 0x10f44, .both), (0x10f51, 0x10f53, .both),
  (0x10f54, 0x10f54, .before), (0x10f70, 0x10f73, .both), (0x10f74, 0x10f75, .before),
  (0x10f76, 0x10f81, .both), (0x10fb0, 0x10fb0, .both), (0x10fb2, 0x10fb3, .both),
  (0x10fb4, 0x10fb6, .before), (0x10fb8, 0x10fb8, .both), (0x10fb9, 0x10fba, .before),
  (0x10fbb, 0x10fbc, .both), (0x10fbd, 0x10fbd, .before), (0x10fbe, 0x10fbf, .both),
  (0x10fc1, 0x10fc1, .both), (0x10fc2, 0x10fc3, .before), (0x10fc4, 0x10fc4, .both),
  (0x10fc9, 0x10fc9, .before), (0x10fca, 0x10fca, .both), (0x10fcb, 0x10fcb, .after),
  (0x1e922, 0x1e943, .both)]

/-- Characters that letters are joined across. -/
def isTransparent (c : Char) : Bool := isNonspacing c || c.toNat = 0x1e94b

def nonJoiner : Char := '\u200c'

def joiner : Char := '\u200d'

/-- The class of the marks that cut off a vowel. -/
def viramaClass : Nat := 9

def isVirama (c : Char) : Bool := markClasses.lookup? c.toNat = some viramaClass

/-- Whether the next letter is joined on one of some sides. -/
def meets (sides : List Joining) (cs : List Char) : Bool :=
  match cs.dropWhile isTransparent with
  | c :: _ => (joinings.lookup? c.toNat).any sides.contains
  | [] => false

/-- Whether a character may be given between what is before it, last character first, and after it. -/
def mayStand (front : List Char) (c : Char) (back : List Char) : Bool :=
  if c ≠ nonJoiner ∧ c ≠ joiner then true
  else if front.head?.any isVirama then true
  else c = nonJoiner && meets [.both, .after] front && meets [.both, .before] back

/-- Whether every joiner has a reason, after the characters in front, last one first. -/
def joinsWell (front : List Char) : List Char → Bool
  | [] => true
  | c :: cs => mayStand front c cs && joinsWell (c :: front) cs

end QueueBoard.Domain

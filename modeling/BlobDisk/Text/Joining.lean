import BlobDisk.Text.Mark

/-!
# Joining letters

In some scripts a letter is joined to the letter before it, to the one after it, or to both.
`Joining.of?` says how; marks are passed over.
-/

namespace BlobDisk

/-- The sides, as seen on the page, on which a letter is joined to its neighbours; what is passed over
lets the letters around it join. -/
inductive Joining
  | left
  | right
  | both
  | passed
deriving DecidableEq, Repr

namespace Joining

/-- The letters that are joined. Code points that no name may hold are counted with their
neighbours. -/
def table : List (Nat × Nat × Joining) := [
  (0x620, 0x620, .both), (0x622, 0x625, .right), (0x626, 0x626, .both), (0x627, 0x627, .right),
  (0x628, 0x628, .both), (0x629, 0x629, .right), (0x62A, 0x62E, .both), (0x62F, 0x632, .right),
  (0x633, 0x63F, .both), (0x641, 0x647, .both), (0x648, 0x648, .right), (0x649, 0x64A, .both),
  (0x66E, 0x66F, .both), (0x671, 0x673, .right), (0x679, 0x687, .both), (0x688, 0x699, .right),
  (0x69A, 0x6BF, .both), (0x6C0, 0x6C0, .right), (0x6C1, 0x6C2, .both), (0x6C3, 0x6CB, .right),
  (0x6CC, 0x6CC, .both), (0x6CD, 0x6CD, .right), (0x6CE, 0x6CE, .both), (0x6CF, 0x6CF, .right),
  (0x6D0, 0x6D1, .both), (0x6D2, 0x6D3, .right), (0x6D5, 0x6D5, .right), (0x6EE, 0x6EF, .right),
  (0x6FA, 0x6FC, .both), (0x6FF, 0x6FF, .both), (0x710, 0x710, .right), (0x712, 0x714, .both),
  (0x715, 0x719, .right), (0x71A, 0x71D, .both), (0x71E, 0x71E, .right), (0x71F, 0x727, .both),
  (0x728, 0x728, .right), (0x729, 0x729, .both), (0x72A, 0x72A, .right), (0x72B, 0x72B, .both),
  (0x72C, 0x72C, .right), (0x72D, 0x72E, .both), (0x72F, 0x74D, .right), (0x74E, 0x758, .both),
  (0x759, 0x75B, .right), (0x75C, 0x76A, .both), (0x76B, 0x76C, .right), (0x76D, 0x770, .both),
  (0x771, 0x771, .right), (0x772, 0x772, .both), (0x773, 0x774, .right), (0x775, 0x777, .both),
  (0x778, 0x779, .right), (0x77A, 0x77F, .both), (0x7CA, 0x7EA, .both), (0x840, 0x840, .right),
  (0x841, 0x845, .both), (0x846, 0x847, .right), (0x848, 0x848, .both), (0x849, 0x849, .right),
  (0x84A, 0x853, .both), (0x854, 0x854, .right), (0x855, 0x855, .both), (0x856, 0x858, .right),
  (0x860, 0x860, .both), (0x862, 0x865, .both), (0x867, 0x867, .right), (0x868, 0x868, .both),
  (0x869, 0x882, .right), (0x886, 0x886, .both), (0x889, 0x88D, .both), (0x88E, 0x88E, .right),
  (0x8A0, 0x8A9, .both), (0x8AA, 0x8AC, .right), (0x8AE, 0x8AE, .right), (0x8AF, 0x8B0, .both),
  (0x8B1, 0x8B2, .right), (0x8B3, 0x8B8, .both), (0x8B9, 0x8B9, .right), (0x8BA, 0x8C8, .both),
  (0x1807, 0x1807, .both), (0x1820, 0x1878, .both), (0x1887, 0x18AA, .both),
  (0xA840, 0xA871, .both), (0xA872, 0xA872, .left), (0x10AC0, 0x10AC4, .both),
  (0x10AC5, 0x10AC5, .right), (0x10AC7, 0x10AC7, .right), (0x10AC9, 0x10ACA, .right),
  (0x10ACD, 0x10ACD, .left), (0x10ACE, 0x10AD2, .right), (0x10AD3, 0x10AD6, .both),
  (0x10AD7, 0x10AD7, .left), (0x10AD8, 0x10ADC, .both), (0x10ADD, 0x10ADD, .right),
  (0x10ADE, 0x10AE0, .both), (0x10AE1, 0x10AE1, .right), (0x10AE4, 0x10AE4, .right),
  (0x10AEB, 0x10AEE, .both), (0x10AEF, 0x10AEF, .right), (0x10B80, 0x10B80, .both),
  (0x10B81, 0x10B81, .right), (0x10B82, 0x10B82, .both), (0x10B83, 0x10B85, .right),
  (0x10B86, 0x10B88, .both), (0x10B89, 0x10B89, .right), (0x10B8A, 0x10B8B, .both),
  (0x10B8C, 0x10B8C, .right), (0x10B8D, 0x10B8D, .both), (0x10B8E, 0x10B8F, .right),
  (0x10B90, 0x10B90, .both), (0x10B91, 0x10B91, .right), (0x10BA9, 0x10BAC, .right),
  (0x10BAD, 0x10BAE, .both), (0x10D00, 0x10D00, .left), (0x10D01, 0x10D21, .both),
  (0x10D22, 0x10D22, .right), (0x10D23, 0x10D23, .both), (0x10EC2, 0x10EC2, .right),
  (0x10EC3, 0x10EC4, .both), (0x10F30, 0x10F32, .both), (0x10F33, 0x10F33, .right),
  (0x10F34, 0x10F44, .both), (0x10F51, 0x10F53, .both), (0x10F54, 0x10F54, .right),
  (0x10F70, 0x10F73, .both), (0x10F74, 0x10F75, .right), (0x10F76, 0x10F81, .both),
  (0x10FB0, 0x10FB0, .both), (0x10FB2, 0x10FB3, .both), (0x10FB4, 0x10FB6, .right),
  (0x10FB8, 0x10FB8, .both), (0x10FB9, 0x10FBA, .right), (0x10FBB, 0x10FBC, .both),
  (0x10FBD, 0x10FBD, .right), (0x10FBE, 0x10FBF, .both), (0x10FC1, 0x10FC1, .both),
  (0x10FC2, 0x10FC3, .right), (0x10FC4, 0x10FC4, .both), (0x10FC9, 0x10FC9, .right),
  (0x10FCA, 0x10FCA, .both), (0x10FCB, 0x10FCB, .left), (0x1E922, 0x1E943, .both)]

/-- How the character is joined, if it is. -/
def of? (c : Char) : Option Joining :=
  if Mark.isNonspacing c || c.toNat = 0x1E94B then some passed else CodePoint.lookup? table c.toNat

end Joining

end BlobDisk

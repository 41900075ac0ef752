import ElfScope.Text.Column

/-!
# Kinds and flags of sections

The number that says what a section holds, and its name in the report; and the twelve flags that a
section may carry, each a bit of its flag word and a letter of the report. A `FlagSet` may hold
further bits, to which no letter belongs.
-/

namespace ElfScope

/-! ## Kinds -/

namespace SectionKind

/-- The kind of the section that holds the symbols. -/
def symbolTable : UInt32 := 2

/-- The names of the standard kinds. -/
def names : List (UInt32 × String) :=
  [(0, "NULL"), (1, "PROGBITS"), (symbolTable, "SYMTAB"), (3, "STRTAB"), (4, "RELA"),
    (5, "HASH"), (6, "DYNAMIC"), (7, "NOTE"), (8, "NOBITS"), (9, "REL"), (11, "DYNSYM"),
    (14, "INIT_ARRAY"), (15, "FINI_ARRAY"), (17, "GROUP"), (0x6ffffff6, "GNU_HASH")]

/-- The name of a kind; a kind without one is written in hexadecimal. -/
def label (kind : UInt32) : String :=
  (names.lookup kind).getD (Text.hexLiteral kind.toNat)

end SectionKind

/-! ## Flags -/

/-- What a section is marked as. Its data can be written (`write`), it occupies memory while the
program runs (`alloc`), or it holds instructions (`execute`). Equal entries may be merged (`merge`),
and it holds strings that end in a zero byte (`strings`). Its info field is a section index
(`infoLink`), or the order of its entries is kept (`linkOrder`). It needs handling of the operating
system (`osSpecific`), belongs to a `group`, or holds data of a thread (`threadLocal`). Its contents
are `compressed`, or it is left out unless something refers to it (`exclude`). -/
inductive SectionFlag where
  | write
  | alloc
  | execute
  | merge
  | strings
  | infoLink
  | linkOrder
  | osSpecific
  | group
  | threadLocal
  | compressed
  | exclude
  deriving DecidableEq, Repr

namespace SectionFlag

/-- All flags, in the order of their bits. -/
def all : List SectionFlag :=
  [.write, .alloc, .execute, .merge, .strings, .infoLink, .linkOrder, .osSpecific, .group,
    .threadLocal, .compressed, .exclude]

/-- The bit of a flag. -/
def mask : SectionFlag → UInt64
  | .write => 0x1
  | .alloc => 0x2
  | .execute => 0x4
  | .merge => 0x10
  | .strings => 0x20
  | .infoLink => 0x40
  | .linkOrder => 0x80
  | .osSpecific => 0x100
  | .group => 0x200
  | .threadLocal => 0x400
  | .compressed => 0x800
  | .exclude => 0x80000000

/-- The letter of a flag. -/
def letter : SectionFlag → Char
  | .write => 'W'
  | .alloc => 'A'
  | .execute => 'X'
  | .merge => 'M'
  | .strings => 'S'
  | .infoLink => 'I'
  | .linkOrder => 'L'
  | .osSpecific => 'O'
  | .group => 'G'
  | .threadLocal => 'T'
  | .compressed => 'C'
  | .exclude => 'E'

end SectionFlag

/-- A flag word: its bits, with or without a flag behind them. -/
structure FlagSet where
  bits : UInt64
  deriving DecidableEq, Repr

namespace FlagSet

/-- The bits that belong to flags. -/
def knownBits : UInt64 :=
  SectionFlag.all.foldl (fun bits flag => bits ||| flag.mask) 0

/-- The set without the bits that belong to no flag. -/
def truncate (set : FlagSet) : FlagSet :=
  ⟨set.bits &&& knownBits⟩

/-- Whether a flag is in the set. -/
def contains (set : FlagSet) (flag : SectionFlag) : Bool :=
  set.bits &&& flag.mask == flag.mask

/-- The letters of the flags in the set, in the order of their bits. -/
def letters (set : FlagSet) : String :=
  String.ofList ((SectionFlag.all.filter set.contains).map SectionFlag.letter)

end FlagSet

end ElfScope

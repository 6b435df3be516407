/-
# Writing direction and joining

Two properties of characters in scripts that run from right to left or join their
letters: the bidirectional class and the joining type.  Both tables give stretches as a
length and a letter.
-/
import PlainLink.Unicode.Runs

namespace PlainLink.Unicode

/-- The stretches of a table of lengths, each followed by one letter. -/
def letterRuns (table : String) : Runs Char :=
  let (_, rows) := table.toList.foldl
    (fun (length, rows) c =>
      if c.isDigit then (10 * length + (c.toNat - '0'.toNat), rows)
      else if c.isWhitespace then (length, rows)
      else (0, (length, c) :: rows))
    ((0 : Nat), ([] : List (Nat × Char)))
  Runs.ofLengths rows.reverse

/-- Bidirectional classes: `L` left to right, `R` right to left, `A` Arabic letter, `N` Arabic
number, `E` European number, `S` and `C` separators, `T` terminator, `O` other neutral, `B`
boundary neutral, `M` nonspacing mark, `X` any other class. -/
def directions : Runs Char := letterRuns
  "9B 5X 14B 5X 2O 3T 5O 1S 1C 1S 2C 10E 1C 6O 26L 6O 26L 4O 6B 1X 26B 1C 1O 4T 4O 1L 2O 1B 2O
    2T 2E 1O 1L 3O 1E 1L 5O 23L 1O 31L 1O 449L 2O 7L 14O 2L 14O 5L 9O 1L 17O 112M 4L 2O 8L 1O 5L
    2O 1L 1O 110L 1O 140L 7M 256L 1O 2L 2O 1T 1R 45M 1R 1M 1R 2M 1R 2M 1R 1M 56R 6N 2O 1A 2T 1A
    1C 1A 2O 11M 48A 21M 10N 1T 2N 3A 1M 101A 7M 1N 1O 6M 2A 2M 1O 4M 2A 10E 23A 1M 30A 27M 91A
    11M 15A 43R 9M 2R 4O 3R 1M 24R 4M 1R 9M 1R 3M 1R 5M 43R 3M 4R 48A 2N 6A 8M 42A 24M 1N 32M
    55L 1M 1L 1M 4L 8M 4L 1M 3L 7M 10L 2M 29L 1M 58L 1M 4L 4M 8L 1M 20L 2M 14L 2T 7L 1T 2L 1M 2L
    2M 57L 1M 4L 2M 4L 2M 2L 3M 3L 1M 30L 2M 3L 1M 11L 2M 57L 1M 4L 5M 1L 2M 4L 1M 20L 2M 13L 1T
    8L 6M 1L 1M 58L 1M 2L 1M 1L 4M 8L 1M 7L 2M 11L 2M 30L 1M 61L 1M 12L 1M 37L 6O 1T 1O 5L 1M 3L
    1M 55L 1M 1L 3M 5L 3M 1L 4M 7L 2M 11L 2M 20L 7O 2L 1M 58L 1M 15L 2M 20L 2M 28L 2M 57L 2M 4L
    4M 8L 1M 20L 2M 29L 1M 72L 1M 7L 3M 1L 1M 90L 1M 2L 7M 4L 1T 7L 8M 98L 1M 2L 9M 11L 7M 73L
    2M 27L 1M 1L 1M 1L 1M 4O 51L 14M 1L 5M 1L 2M 5L 11M 1L 36M 9L 1M 102L 4M 1L 6M 1L 2M 2L 2M
    25L 2M 4L 3M 16L 4M 13L 1M 2L 2M 6L 1M 15L 1M 703L 3M 48L 10O 102L 1O 639L 1X 26L 2O 117L 3M
    29L 2M 30L 2M 30L 2M 64L 2M 1L 7M 8L 1M 2L 11M 7L 1T 1L 1M 18L 10O 6L 11O 3M 1B 1M 117L 2M
    34L 1M 118L 3M 4L 2M 9L 1M 6L 3M 4L 1O 3L 2O 152L 34O 23L 2M 2L 1M 58L 1M 1L 7M 1L 1M 1L 1M
    2L 8M 6L 10M 2L 1M 48L 31M 49L 4M 48L 1M 1L 5M 1L 1M 5L 1M 40L 9M 12L 2M 32L 4M 2L 2M 1L 3M
    56L 1M 1L 2M 3L 1M 1L 3M 58L 8M 2L 2M 152L 3M 1L 13M 1L 7M 4L 1M 6L 1M 3L 2M 198L 64M 445L
    1O 1L 3O 11L 3O 13L 3O 13L 3O 13L 2O 1L 11X 3B 1L 1R 24O 7X 1C 5T 15O 1C 26O 1X 6B 4X 6B 1E
    3L 6E 2S 3O 1L 10E 2S 3O 17L 48T 33M 15L 2O 1L 4O 1L 2O 10L 1O 1L 3O 5L 6O 1L 1O 1L 1O 1L 1O
    4L 1T 11L 2O 4L 5O 5L 4O 2L 16O 41L 3O 4L 130O 1S 1T 290O 69L 26O 1L 145O 25L 11O 21L 40O
    20E 78L 450O 1L 339O 256L 628O 2L 32O 1L 105O 229L 6O 4L 3M 7L 7O 127L 1M 96L 32M 94O 34L
    26O 1L 89O 12L 214O 26L 12O 4L 1X 4O 3L 25O 9L 4M 2L 1O 5L 2O 5L 3O 89L 2M 2O 3L 1O 90L 1O
    196L 36O 57L 2O 49L 16O 28L 3O 50L 15O 12L 4O 167L 4O 99L 2O 31L 1O 6592L 64O 22160L 55O
    326L 3O 95L 4M 1O 10M 2O 30L 2M 80L 2M 14L 34O 102L 1O 121L 1M 3L 1M 4L 1M 25L 2M 1L 4O 1M
    11L 2T 58L 4O 76L 2M 26L 18M 13L 1M 38L 8M 25L 11M 46L 3M 48L 1M 2L 4M 2L 2M 39L 1M 67L 6M
    2L 2M 2L 2M 12L 1M 8L 1M 47L 1M 51L 1M 1L 3M 2L 2M 5L 2M 1L 1M 42L 2M 8L 1M 115L 2O 121L 1M
    2L 1M 4L 1M 20271L 1R 1M 10R 1S 38R 494A 18O 127A 1O 32B 13A 3O 16M 10O 6L 16M 32O 1C 1O 1C
    1L 1O 1C 9O 1T 2O 2S 3O 1L 1O 2T 1O 4L 143A 1B 1L 2O 3T 5O 1S 1C 1S 2C 10E 1C 6O 26L 6O 26L
    11O 122L 2T 3O 2T 1L 7O 1L 9B 5O 2B 257L 1O 62L 77O 3L 13O 3L 1O 92L 1M 226L 1M 27E 122L 5M
    1157L 287R 1O 225R 3M 1R 2M 5R 4M 40R 3M 4R 1M 165R 2M 82R 7O 448R 36A 4M 8A 10N 6A 288R 31N
    44R 2M 19R 61A 3M 48R 22A 11M 31A 18R 4M 122R 1L 1M 54L 15M 11L 20O 10L 1M 2L 2M 10L 3M 49L
    4M 2L 2M 7L 1M 61L 3M 36L 5M 1L 8M 62L 1M 12L 2M 52L 9M 10L 4M 2L 1M 95L 3M 2L 1M 1L 2M 6L
    1M 2L 1M 157L 1M 3L 8M 21L 2M 57L 2M 3L 1M 37L 7M 3L 5M 195L 8M 2L 3M 1L 1M 23L 1M 84L 6M 1L
    1M 4L 2M 1L 2M 238L 4M 6L 2M 1L 2M 27L 2M 85L 8M 2L 1M 1L 2M 31L 13O 62L 1M 1L 1M 2L 6M 1L
    1M 101L 3M 2L 4M 1L 5M 259L 9M 1L 2M 256L 2M 1L 1M 4L 1M 144L 4M 2L 2M 4L 1M 32L 6M 2L 2M
    40L 6M 2L 4M 8L 1M 9L 6M 2L 3M 46L 13M 1L 2M 406L 7M 1L 6M 84L 22M 2L 7M 1L 2M 1L 2M 122L 6M
    3L 1M 1L 2M 1L 7M 1L 1M 72L 2M 3L 1M 1L 1M 347L 2M 11L 2M 52L 5M 5L 1M 1L 1M 146L 8O 4T 17O
    5198L 1M 6L 15M 13978L 5M 59L 7M 1048L 1M 63L 4M 79L 1O 1L 1M 19640L 2M 1L 4B 4700L 46M 2L
    23M 544L 3M 9L 8B 8M 2L 7M 30L 4M 59L 2O 21L 66O 3M 1O 186L 87O 900L 1O 57L 1O 57L 1O 57L 1O
    57L 1O 10L 50E 512L 55M 4L 50M 8L 1M 14L 1M 22L 5M 1L 15M 1360L 7M 1L 17M 2L 7M 1L 2M 1L 5M
    100L 1M 160L 7M 375L 1M 61L 4M 15L 1T 492L 4M 784L 208R 7M 109R 7M 805R 80A 64R 80A 176R
    240A 2O 14A 256R 44O 4L 100O 12L 15O 2L 15O 1L 15O 1L 37O 10L 11E 5O 31L 1O 58L 6O 61L 1O
    178L 6O 154L 984O 4L 17O 3L 13O 3L 119O 4L 95O 6L 12O 4L 1O 15L 12O 4L 56O 8L 10O 6L 40O 8L
    30O 2L 2O 78L 340O 12L 14O 2L 13O 3L 9O 7L 46O 1L 7O 8L 14O 4L 9O 7L 9O 7L 147O 1L 55O 37L
    10E 1028L 2B 65534L 2B 65534L 2B 65534L 2B 65534L 2B 65534L 2B 65534L 2B 65534L 2B 65534L 2B
    65534L 2B 65534L 2B 65534L 2B 65534L 258B 240M 3600B 61438L 2B 65534L 2B 65534L 2B"

/-- The bidirectional class of a character, by its letter in `directions`. -/
def direction (c : Char) : Char :=
  (directions.find? c.toNat).getD 'X'

/-- Joining types: `L` left, `R` right, `D` dual, `C` join-causing, `T`
transparent, `U` none. -/
def joiningTypes : Runs Char := letterRuns
  "173U 1T 594U 112T 275U 7T 263U 45T 1U 1T 1U 2T 1U 2T 1U 1T 72U 11T 1U 1T 3U 1D 1U 4R 1D 1R
    1D 1R 5D 4R 13D 1C 7D 1R 2D 21T 14U 2D 1T 3R 1U 3R 16D 18R 38D 1R 2D 9R 1D 1R 1D 1R 2D 2R 1U
    1R 7T 2U 6T 2U 2T 1U 4T 2R 10U 3D 2U 1D 15U 1T 1R 1T 3D 5R 4D 1R 9D 1R 1D 1R 1D 1R 2D 1R 27T
    2U 1R 11D 3R 15D 2R 4D 1R 1D 2R 3D 2R 6D 38U 11T 25U 33D 9T 6U 1C 2U 1T 24U 4T 1U 9T 1U 3T
    1U 5T 18U 1R 5D 2R 1D 1R 10D 1R 1D 3R 3T 4U 1D 1U 4D 1U 1R 1D 2R 5U 19R 3C 1D 2U 5D 1R 1D 7U
    9T 10D 3R 1U 1R 2D 2R 6D 1R 15D 1U 24T 1U 32T 55U 1T 1U 1T 4U 8T 4U 1T 3U 7T 10U 2T 29U 1T
    58U 1T 4U 4T 8U 1T 20U 2T 26U 1T 2U 2T 57U 1T 4U 2T 4U 2T 2U 3T 3U 1T 30U 2T 3U 1T 11U 2T
    57U 1T 4U 5T 1U 2T 4U 1T 20U 2T 22U 6T 1U 1T 58U 1T 2U 1T 1U 4T 8U 1T 7U 2T 11U 2T 30U 1T
    61U 1T 12U 1T 50U 1T 3U 1T 55U 1T 1U 3T 5U 3T 1U 4T 7U 2T 11U 2T 29U 1T 58U 1T 2U 1T 6U 1T
    5U 2T 20U 2T 28U 2T 57U 2T 4U 4T 8U 1T 20U 2T 29U 1T 72U 1T 7U 3T 1U 1T 90U 1T 2U 7T 12U 8T
    98U 1T 2U 9T 11U 7T 73U 2T 27U 1T 1U 1T 1U 1T 55U 14T 1U 5T 1U 2T 5U 11T 1U 36T 9U 1T 102U
    4T 1U 6T 1U 2T 2U 2T 25U 2T 4U 3T 16U 4T 13U 1T 2U 2T 6U 1T 15U 1T 703U 3T 946U 3T 29U 2T
    30U 2T 30U 2T 64U 2T 1U 7T 8U 1T 2U 11T 9U 1T 41U 1D 2U 1C 3T 1U 1T 16U 89D 12U 2T 34D 1T 1D
    117U 3T 4U 2T 9U 1T 6U 3T 219U 2T 2U 1T 58U 1T 1U 7T 1U 1T 1U 1T 2U 8T 6U 10T 2U 1T 48U 46T
    2U 12T 20U 4T 48U 1T 1U 5T 1U 1T 5U 1T 40U 9T 12U 2T 32U 4T 2U 2T 1U 3T 56U 1T 1U 2T 3U 1T
    1U 3T 58U 8T 2U 2T 152U 3T 1U 13T 1U 7T 4U 1T 6U 1T 3U 2T 198U 64T 523U 1T 1U 1C 2T 26U 5T
    49U 5T 5U 6T 96U 33T 3070U 3T 141U 1T 96U 32T 554U 4T 107U 2T 30164U 4T 1U 10T 32U 2T 80U 2T
    272U 1T 3U 1T 4U 1T 25U 2T 5U 1T 19U 50D 1L 81U 2T 26U 18T 13U 1T 38U 8T 25U 11T 46U 3T 48U
    1T 2U 4T 2U 2T 39U 1T 67U 6T 2U 2T 2U 2T 12U 1T 8U 1T 47U 1T 51U 1T 1U 3T 2U 2T 5U 2T 1U 1T
    42U 2T 8U 1T 238U 1T 2U 1T 4U 1T 20272U 1T 737U 16T 16U 16T 207U 1T 249U 3T 513U 1T 226U 1T
    149U 5T 1670U 3T 1U 2T 5U 4T 40U 3T 4U 1T 128U 5D 1R 1U 1R 1U 2R 2U 1L 5R 4D 1L 5D 1R 3D 1R
    2U 1R 2T 4U 4D 1R 144U 1D 1R 1D 3R 3D 1R 2D 1R 1D 2R 1D 1R 23U 4R 2D 337U 1L 33D 1R 1D 4T
    65U 5T 317U 2T 21U 1R 2D 1U 2D 50U 6T 48U 3D 1R 17D 1U 11T 3D 1R 27U 4D 2R 12D 4T 42U 1D 1U
    2D 3R 1U 1D 2R 2D 1R 2D 1U 1D 2R 1D 4U 1R 1D 1L 53U 1T 54U 15T 41U 1T 2U 2T 10U 3T 49U 4T 2U
    2T 7U 1T 61U 3T 36U 5T 1U 8T 62U 1T 12U 2T 52U 9T 10U 4T 2U 1T 95U 3T 2U 1T 1U 2T 6U 1T 2U
    1T 157U 1T 3U 8T 21U 2T 57U 2T 3U 1T 37U 7T 3U 5T 70U 6T 13U 1T 1U 1T 1U 1T 14U 2T 85U 8T 2U
    3T 1U 1T 23U 1T 84U 6T 1U 1T 4U 2T 1U 2T 238U 4T 6U 2T 1U 2T 27U 2T 85U 8T 2U 1T 1U 2T 106U
    1T 1U 1T 2U 6T 1U 1T 101U 1T 1U 1T 2U 4T 1U 5T 259U 9T 1U 2T 256U 2T 1U 1T 4U 1T 144U 4T 2U
    2T 4U 1T 32U 10T 40U 6T 2U 4T 8U 1T 9U 6T 2U 3T 46U 13T 1U 2T 198U 1T 1U 3T 1U 1T 201U 7T 1U
    6T 1U 1T 82U 22T 2U 7T 1U 2T 1U 2T 122U 6T 3U 1T 1U 2T 1U 7T 1U 1T 72U 2T 3U 1T 1U 1T 347U
    2T 11U 2T 52U 5T 5U 1T 1U 1T 23U 1T 5333U 17T 6U 15T 11464U 12T 3U 3T 2496U 5T 59U 7T 1048U
    1T 63U 4T 81U 1T 19640U 2T 1U 4T 4700U 46T 2U 23T 544U 3T 9U 16T 2U 7T 30U 4T 148U 3T 1979U
    55T 4U 50T 8U 1T 14U 1T 22U 5T 1U 15T 1360U 7T 1U 17T 2U 7T 1U 2T 1U 5T 100U 1T 160U 7T 375U
    1T 61U 4T 508U 4T 254U 2T 243U 1T 2U 1T 7U 2T 5U 1T 474U 7T 41U 68D 8T 792245U 1T 30U 96T
    128U 240T 196112U"

/-- The joining type of a character, by its letter in `joiningTypes`. -/
def joiningType (c : Char) : Char :=
  (joiningTypes.find? c.toNat).getD 'U'

end PlainLink.Unicode

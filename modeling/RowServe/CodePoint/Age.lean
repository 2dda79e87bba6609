import RowServe.CodePoint.Table

/-!
# Ages

The version of the standard that assigned a code point. The set of a version holds all
code points that were assigned then.

Results:

* `contains_assignedIn`: the set of a version holds the code points whose version is not
  later.
-/

namespace RowServe.CodePoint

/-- The versions, from the first one on, with the letter that stands for each in the table. -/
def versions : List (String × String) :=
  [("1.1", "a"), ("2.0", "b"), ("2.1", "c"), ("3.0", "d"), ("3.1", "e"), ("3.2", "f"),
   ("4.0", "g"), ("4.1", "h"), ("5.0", "i"), ("5.1", "j"), ("5.2", "k"), ("6.0", "l"),
   ("6.1", "m"), ("6.2", "n"), ("6.3", "o"), ("7.0", "p"), ("8.0", "q"), ("9.0", "r"),
   ("10.0", "s"), ("11.0", "t"), ("12.0", "u"), ("12.1", "v"), ("13.0", "w"), ("14.0", "x"),
   ("15.0", "y"), ("15.1", "z"), ("16.0", "A")]

/-- The version that assigned each code point; a dash marks those never assigned. -/
def ageTable : String := "
  502a 4d 30a 8d f g 18d 3g 11h 14i 89a 5d 2g 47a d 10a 5d 17g 70a 9d f 8g 5h 3g 2a d 13f 4j 2a 2j
  2- a 3i a p 4- 7a - a - 20a - 44a j 7a d 2f a d a d a d a d 18a 2e f 5g 4h d 12a d 66a d 12a d
  41a j 2d 2f 4d 53a 2f 2a 2f 2a 2f i 28a 2d 8a 2h 2a 6i 16f 4i 16j 2k 2l 8p - 38a 2- 7a t 39a t a
  d 2- 2p m - 17b h 13b 10a i 9a b 3h 8- 27a 4- t 5a 11- 4g m p 5j h a 9g 5j a o x h a l 26a 5j
  19a 3d 3g 6h l 14a 2f 72a 2d 5a d 15a d 30a 2g 10a 5d g 14d - 30d 3g 27d 2- 3g 30h 18j 49d f 14-
  59i 2- 3t 46k 2- 15k - 28l 2- l - 11s 5- 31x - 2x 5- A 8x m p 11m 6p 2q x 8r 10w 11x t 15r q 27m
  p k 3a g 53a 2l 18a k l 5a k 2l 25a 2j 5l p 2k 2i h 2i p 3a - 8a 2- 2a 2- 22a - 7a - a 3- 4a 2-
  a g 7a 2- 2a 2- 3a h 8- a 4- 2a - 5a 2- 21a k 2s t 2- g a g - 6a 4- 2a 2- 22a - 7a - 2a - 2a -
  2a 2- a - 5a 4- 2a 2- 3a 3- j 7- 4a - a 7- 15a j t 10- 3a - 7a g a - 3a - 22a - 7a - 2a - 5a 2-
  10a - 3a - 3a 2- a 15- a 3g 2- 10a m g 7- q 6s - 3a - 8a 2- 2a 2- 22a - 7a - 2a - g 4a 2- 8a j
  2- 2a 2- 3a 7- w 2a 4- 2a - 3a 2j 2- 11a g 6l 10- 2a - 6a 3- 3a - 4a 3- 2a - a - 2a 3- 2a 3- 3a
  3- 8a h 3a 4- 5a 3- 3a - 4a 2- j 6- a 14- h 12a 8g 5- p 3a t 8a - 3a - 23a - 10a p 5a 2- x j 7a
  - 3a - 4a 7- 2a - 2j q 2- x 2- 2a 2j 2- 10a 7- u 8j r p 2a t 8a - 3a - 23a - 10a - 5a 2- 2g 7a -
  3a - 4a 7- 2a 6- x a - 2a 2i 2- 10a - 2i y 12- s p 2a w 8a - 3a - 23a l 16a l 2s j 6a j - 3a -
  4a l r 4- 3r a 7r q 2a 2j 2- 10a 6j 3r 7j - w 2d - 18d 3- 24d - 9d - d 2- 7d 3- d 4- 6d - d - 8d
  6- 10p 2- 3d 12- 58a 4- 29a 37- 2a - a - u 2a u a - u a 6u 4a u 7a u 3a - a - a 2u 2a u 13a u 3a
  2- 5a - a - 6a y - 10a 2- 2a 2m 32- 72b - 33b d 2j 4- 27b 4l 6b d b - 21b 3d 7b d b 3d - 15d - j
  d 2h 3j 4k 2l 37- 34d j 5d j 2d j 7d 3j 4d 6j 26d 64j 4k 2j 38a - m 5- m 2- 39a 2f 2h a h 3m 90a
  5k 68a 5k 82a 6k 7d h 63d h d - 4d 2- 7d - d - 4d 2- 39d h d - 4d 2- 31d h d - 4d 2- 7d - d - 4d
  2- 7d h 7d - 23d h 31d h d - 4d 2- 7d h 39d h 19d 2- 2l 2h 28d 3- 26h 6- 85d q 2- 6q 2- k 630d
  9k 29d 3- 81d 8p 7- 13f x 7f x 9- x 23f 9- 20f 12- 13f - 3f - 2f 12- 93d g 2- 10d 6- 10g 6- 15d
  x 10d 6- 88d t 7- 42d j 5- 70k 10- 29g 2p - 12g 4- 12g 4- g 3- 42g 2- 5g 11- 42h 2k 4- 26h 6-
  10h k 3- 2h 32g 28h 2- 2h 63k - 29k 2- 11k 6- 10k 6- 14k 2- 15p 2w 14x 49- 76i x - 2A 45i 2x A
  43j 3m 12j 6m 52l 8- 4l 56j 3- 15j 3- 51j 9r 2A 5- 43t 2- 3t 8m 8- 35k 4m s 2p u 5- 108g 88h 7i
  28j 15p 4s x r l k 2i 155a b 4j 90a 6j 22a 2- 6a 2- 38a 2- 6a 2- 8a - a - a - a - 31a 2- 53a -
  15a - 14a 2- 6a - 19a 2- 3a - 9a - 47a d 23a f 6d 5f 2g 2h f 7h 5f j - 4o 7a f 2- 27a - 5h 8l 3-
  11a b c 3d 2f 4h 3k l n 3p q s x 15- 18a 2d 7f h 4i j 15- 57a 2d g h 15f h 2i j 3k 48a d i 4j k
  2q 4- 91a 9d 12f 242a 14f a d 121a d f 30d 52f 2g 11h 12i k 11l 7p 4r s 37a 2d 3A 22- 11a 21-
  139a 20f g 150a 10f 80a 8d 8f 20a 2g 2f h d 86a 2d 12f 2h 10f 8g 11h j 2k 2g 16h i 10j 3k 4j 10k
  l 19k l k 4l 24k p 4a l 4a 2l 28a l 35a l a l 4a 3l a k 7a 2l 7a 14f 31a 3l 24a l 14a l 7h 4i m
  j m 2l 28f 4j 16f 256d 512f 14g 6h 7i 5j 4i 41j 3p 5j 5k 26p 2- 32p - w 34p 3t 12p u 8p s 25t 4q
  15t u 47h x 47h x 13i 3j k 3j 4i 6j 2k 107h 7k 2m 5- 45h - m 5- m 2- 54h 2m 7- h l 14- l 23h 9-
  7h - 7h - 7h - 7h - 7h - 7h - 7h - 7h - 32j 24h 4j 2h 19j k 10m 7p 2r 5s 5t u 3w 11x 34- 26d -
  89d 12- 214d 26- 12d 4z 56a 3d 3f d a - 84a 2f 2- 6a 2f 94a f 5- 40a j s t - 94a - 16a 24d 3l 5w
  16h 20j 2A 9- z 16f 29a 2g - 36a 12k g 15f 28a 2g h 50a 15f 12a 4g 47a v 119a 4g 99a 2g 31a g
  6582d 10w 64g 20902a 22h 8j 8k m 9q 21s 5t 13w 3x 1165d 3- 18d 2f 16d f 12d f 3d f d 9- 48k 300j
  20- 32j 2l 18j 8m 28j 6p q m 88k 8- 23h 4i 5j 2i 107j 2l q 2l 2m 12p 10l m 3p r t 2p 6q 2t 6u 2x
  5u 4w 3A 2- 2x - x - 5x 3A 21- 3x 2w p 2m l 5j 44h w 3- 10k 6- 56i 8- 69j r 8- 12j 6- 28k 2q 2t
  84j 11- j 29k 3- 78k - 11k 4- 2k 31p - 55j 9- 14j 2- 10j 2- 4j 28k 4p 67k 24- 5k 23m 10- 6l 2-
  6l 2- 6l 9- 7l - 7l - 48p 4q 2p 2u 4w 4- 80q 46k 2- 10k 6- 11172b 12- 23k 4- 49k 4- 2048b 6702a
  2m 59f 3k 2- 106h 38- 7a 12- 5a 5- d 25a - 5a - a - 2a - 2a - 108a 16l x 16- 365a 16x 64a 2- 54a
  7- x 32e 12a f g 2x 16f 10h 6- 4a 3j 7p 2q 21a 2f 2g 10a - 19a - 4a 4- 3a f a - 135a 2- a - 94a
  2f 94a 3- 6a 2- 6a 2- 6a 2- 3a 3- 7a - 7a 10- 3d c 3a 12g - 26g - 19g - 2g - 15g 2- 14g 34- 123g
  5- 3g 4- 45g 3- 9g 75h 2p 2r - 12j w 3- p 47- 46j 130- 29j 3- 49j 15- 28p 4- 31e p 4e 9- 3s 27e
  5- 43p 5- 30g - g 36h 4- 14h 42- 38e 2g 38e 80g 2- 10g 6- 36r 4- 36r 4- 40p 8- 52p 11- p 11x -
  15x - 7x - 2x - 11x - 15x - 7x - 2x 3- 52A 12- 311p 9- 22p 10- 8p 24- 6x - 42x - 9x 69- 6g 2- g
  - 44g - 2g 3- g 2- g 22k - 9k 63p 8- 9p 48- 19q - 2q 5- 5q 26i 2k 3- i 26j 5- j 64- 56m 4- 2q 2m
  16q 2- 46q 4h - 2h 5- 8h - 3h - 27h 2t 2- 3h 4- 9h t 7- 9h 7- 32k 32p 32- 39p 4- 12p 9- 54k 3-
  29k 2- 27k 5- 8k 18p 7- 4p 12- 7p 80- 73k 55- 51q 13- 51q 7- 6q 40t 8- 10t 6- 38A 3- 29A 8- 2A
  208- 31k - 42w - 3w 2- 2w 16- 3A 55- A 3y 40t 8- 42t 22- 26x 38- 28w 20- 23u 9- 78l 4- 30l 6x 9-
  p 66k x 10- t 2- 25m 7- 10m 6- 53m - 14m 3t w 8- 39p 9- 73m 4q p 2w 10m p 5q - 20p 11- 18p - 43p
  r 3y 62- 7q - q - 4q - 15q - 11q 6- 59p 5- 10p 6- q 3p - 8p 2- 2p 2- 22p - 7p - 2p - 5p - t 9p
  2- 2p 2- 3p 2- q 6- p 5- 7p 2- 7p 3- 5p 11- 10A - A 2- A - 38A - 10A - A 2- A - 4A - 10A - 2A 8-
  2A 29- 90r w r - r t u 2w 30- 72p 8- 10p 166- 54p 2- 18p 20q 34- 69p 11- 10p 6- 13r 19- 56m u x
  6- 10m 6- 20A 28- 26q t 2- 15q 4- 16q 7x 185- 60t 100- 83p 12- p 7w 2- w 2- 8w - 2w - 30w - 2w
  2- 12w 9- 10w 70- 8u 2- 46u 2- 11u 27- 72s 8- 52s 2u 23s t 5s 13- 16x 57p 7- 10y 182- 34A 14-
  10A 6- 9r - 45r - 14r 10- 29r 3- 32r 2- 22r - 14r 73- 7s - 2s - 44s 3- s - 2s - 9s 8- 10s 6- 6t
  - 2t - 37t - 2t - 6t 7- 10t 310- 25t 7- 17y - 41y 3- 28y A 85- w 15- 50u 13- u 879i 42p q 102-
  99i 12p - 4i p 11- 196q 2636- 99x 13- 1071k y 9u 29y 10- 3995A 5- 583q 6841- 58A 1734- 569l 7-
  31p - 10p 4- 2p 79x - 10x 6- 30p 2- 6p 10- 70p 10- 10p - 7p - 21p 5- 19p 432- 58A 198- 91t 101-
  69m 6u 4- u 47m 9u 7- 17m 64- r s 2u w 11- 2w 14- 6125r 5t 6u 8- 755r 483w 41- A 9w 8935- 4x -
  7x - 2x - 2l 285s 4x 15- y 29- 3u 2- y 14- 4u 8- 396s 2308- 107p 5- 13p 3- 9p 7- 10p 2- 8p 3932-
  250A 6- 436A 76- 46x 2- 23x 9- 116x 60- 246e 10- 39e 2- j 180e 11q 2x 21- 70h 122- 20y 12- 20t
  12- 87g 9- 18i 7t 135- 85e - 71e - 2e 2- e 2- 2e 2- 4e - 12e - e - 4e g 2e - 65e - 4e 2- 8e - 7e
  - 28e - 4e - 5e - e 3- 7e - 338e 2h 2- 290e 2i 2- 50e 652q 15- 5q - 15q 1104- 31x 6- 6y 213- 7r
  - 17r 2- 7r - 2r - 5r 5- 62y 33- y 112- 45u 3- 14u 2- 10u 4- 2u 320- 31x 17- 58u 5- u 464- 42y
  214- 43A 4- A 480- 7x - 4x - 2x - 15x - 197p 2- 16p 41- 75r u 4- 10r 4- 2r 785- 68t 76- 61u 194-
  4m - 27m - 2m - m 2- m - 10m - 4m - m - m 6- m 4- m - m - m - 3m - 2m - m 2- m - m - m - m - m -
  2m - m 2- 4m - 7m - 4m - 4m - m - 10m - 17m 5- 3m - 5m - 17m 52- 2m 270- 44j 4- 100j 12- 15l 2-
  14l p - 15l - 15l 22p 10- 11k 2p 3w 31k t l k 11l k l k 2l k 3l k 3l 5k 8l k 7l k 10l 2m u 3w 9l
  k l 2k 2l k 10l 4k 2l k 10l 18r w 56- 26l k 2l 13- 34k 9l r 4- 9k 7- 2l 14- 6s 154- 33l 12p 3q
  6l p 70l p 2q 20l 12p 37l p 5l 4p 5q 12p 17l 7p 8q 63l p l p 182l p 4l 2p q 62l 2p 4m 7p 5q 24l
  18p r 41p r 86p 5l m 16l m 3l m l m l m l m 3l m 6l 2m 4l m l 2m 4l m 12l 2p 2q 11l 48p 70l 10p
  q 2r 2s u 2w 4- y 3x 13p 3- 4p 3r 2s t u 2w 3- 116l 3y 4- 5y 85p 4t y 6- 12u 4- x 15- 12p 4- 56p
  8- 10p 6- 40p 8- 30p 2- 2w 10A 4- 2A 62- 12s w 3u 9q 6r s 8r 8s r 2s 12r u 12r s 3t 15r 13s 5t u
  w 4t 2w x t u 4t 5q 13r 6s 11t 2w 6u 3w 2u 10t 6u q 2t 8u w x 3u 23s 25t 84u 12- 14t 2- 4u w 3y
  3u 2x 3- 3u 4w 2y A 5- A 6u 19w 4x 3y 7w 4x 3y A y 3w 3x A 7- 2y 7w 3x 2y A 2- A 8x y A 6- 7x 2y
  7- 147w - 55w 37A 10w 1028- 2b 42711e 7w 2x 32- 4149k 4x y 6- 222l 2- 5762q 14- 7473s 15- 622z
  2466- 542e 1504- 2b 4939w 5- 4192y 56398- 2b 65534- 2b 65534- 2b 65534- 2b 65534- 2b 65534- 2b
  65534- 2b 65534- 2b 65534- 2b 65534- 2b 65534- 2b - e 30- 96e 128- 240g 65038- 131074b"

/-- The runs of equal version. -/
def ageRuns : List Run := runs ageTable

/-- The letters of the versions up to one, which is written with a dot or as `v` and its
    digits. -/
def lettersUpTo (name : String) : List (String × String) → Option (List String)
  | [] => none
  | (version, letter) :: later =>
    if name = version || name.toList = 'v' :: version.toList.filter (· ≠ '.') then some [letter]
    else (lettersUpTo name later).map (letter :: ·)

/-- The code points that some versions assigned. -/
def assignedIn (letters : List String) : CodeSet := labelled ageRuns letters.contains

/-- The set of a version: what it and the versions before it assigned. -/
def age? (name : String) : Option CodeSet := (lettersUpTo name versions).map assignedIn

theorem contains_assignedIn (letters : List String) (c : Nat) :
    (assignedIn letters).contains c = (ageRuns.any fun r =>
      (r.count != 0 && letters.contains r.label) &&
        (decide (r.first ≤ c) && decide (c ≤ r.first + r.count - 1))) := by
  simp [assignedIn, labelled, CodeSet.contains_ofRanges, List.any_map, List.any_filter,
    Function.comp_def]

end RowServe.CodePoint

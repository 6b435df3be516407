/-
# Normal form C

Characters are taken apart into a base and its marks, the marks are put in the order of
their combining classes, and what has a composed form is composed again.  Hangul
syllables follow arithmetic, everything else a table.
-/
import PlainLink.Unicode.Runs

namespace PlainLink.Unicode

/-! ## Tables -/

def twos : List Nat → List (Nat × Nat)
  | a :: b :: rest => (a, b) :: twos rest
  | _ => []

def threes : List Nat → List (Nat × Nat × Nat)
  | a :: b :: c :: rest => (a, b, c) :: threes rest
  | _ => []

/-- Rows of a key, a count, and as many numbers. -/
def countedRows (table : List Nat) : List (Nat × List Nat) :=
  match table with
  | key :: count :: rest => (key, rest.take count) :: countedRows (rest.drop count)
  | _ => []
termination_by table.length
decreasing_by simp only [List.length_drop, List.length_cons]; omega

/-- The canonical combining classes, as stretches of a length and a class. -/
def combiningClasses : Runs Nat := Runs.ofLengths (twos (numbers
  "768 0 21 230 1 232 4 220 1 232 1 216 5 220 2 202 4 220 2 202 11 220 5 1 4 220 8 230 1 240 1
    230 3 220 3 230 2 220 1 0 3 230 4 220 1 230 1 232 2 220 1 230 1 233 2 234 1 233 2 234 1 233
    13 230 275 0 5 230 265 0 1 220 4 230 1 220 3 230 1 222 1 220 6 230 6 220 2 230 1 220 2 230 1
    222 1 228 1 230 1 10 1 11 1 12 1 13 1 14 1 15 1 16 1 17 1 18 2 19 1 20 1 21 1 22 1 0 1 23 1
    0 1 24 1 25 1 0 1 230 1 220 1 0 1 18 72 0 8 230 1 30 1 31 1 32 48 0 1 27 1 28 1 29 1 30 1 31
    1 32 1 33 1 34 2 230 2 220 5 230 1 220 2 230 1 220 16 0 1 35 101 0 7 230 2 0 4 230 1 220 1
    230 2 0 2 230 1 0 1 220 2 230 1 220 35 0 1 36 30 0 1 230 1 220 2 230 1 220 2 230 3 220 1 230
    2 220 1 230 1 220 3 230 1 220 1 230 1 220 1 230 1 220 1 230 1 220 2 230 160 0 7 230 1 220 1
    230 9 0 1 220 24 0 4 230 1 0 9 230 1 0 3 230 1 0 5 230 43 0 3 220 60 0 1 230 3 220 4 230 42
    0 5 230 5 220 14 230 1 0 1 220 2 230 1 220 2 230 1 220 3 230 3 220 1 27 1 28 1 29 3 230 1
    220 2 230 2 220 5 230 60 0 1 7 16 0 1 9 3 0 1 230 1 220 2 230 103 0 1 7 16 0 1 9 48 0 1 230
    61 0 1 7 16 0 1 9 110 0 1 7 16 0 1 9 110 0 1 7 16 0 1 9 127 0 1 9 110 0 1 7 16 0 1 9 7 0 1
    84 1 91 101 0 1 7 16 0 1 9 109 0 2 9 16 0 1 9 124 0 1 9 109 0 2 103 1 9 13 0 4 107 108 0 2
    118 1 9 13 0 4 122 76 0 2 220 27 0 1 220 1 0 1 220 1 0 1 216 55 0 1 129 1 130 1 0 1 132 5 0
    4 130 2 0 1 130 1 0 2 230 1 9 1 0 2 230 62 0 1 220 112 0 1 7 1 0 2 9 82 0 1 220 719 0 3 230
    948 0 2 9 30 0 1 9 157 0 1 9 10 0 1 230 203 0 1 228 143 0 1 222 1 230 1 220 219 0 1 230 1
    220 71 0 1 9 20 0 8 230 2 0 1 220 48 0 5 230 6 220 2 230 1 220 1 0 2 220 2 230 2 220 5 230 1
    220 4 230 101 0 1 7 15 0 1 9 38 0 1 230 1 220 7 230 54 0 2 9 58 0 1 7 11 0 2 9 67 0 1 7 152
    0 3 230 1 0 1 1 5 220 2 230 4 220 1 230 1 0 7 1 4 0 1 220 6 0 1 230 3 0 2 230 198 0 2 230 1
    220 7 230 1 220 2 230 1 234 1 214 1 220 1 202 37 230 1 232 2 228 1 220 1 218 1 230 1 233 1
    220 1 230 1 220 720 0 2 230 2 1 4 230 3 1 2 230 4 0 1 230 3 0 2 1 1 230 1 220 1 230 2 1 4
    220 1 230 3070 0 3 230 141 0 1 9 96 0 32 230 554 0 1 218 1 228 1 232 1 222 2 224 105 0 2 8
    30164 0 1 230 4 0 10 230 32 0 2 230 80 0 2 230 276 0 1 9 37 0 1 9 151 0 1 9 27 0 18 230 57 0
    3 220 37 0 1 9 95 0 1 7 12 0 1 9 239 0 1 230 1 0 2 230 1 220 2 0 2 230 5 0 2 230 1 0 1 230
    52 0 1 9 246 0 1 9 20272 0 1 26 769 0 7 230 7 220 2 230 973 0 1 220 226 0 1 220 149 0 5 230
    1682 0 1 220 1 0 1 230 40 0 1 230 1 1 1 220 4 0 1 9 165 0 1 230 1 220 573 0 4 230 387 0 2
    230 80 0 3 220 70 0 2 220 3 230 1 220 1 230 4 220 49 0 1 230 1 220 1 230 1 220 192 0 1 9 41
    0 1 9 14 0 1 9 57 0 1 9 1 7 69 0 3 230 48 0 2 9 62 0 1 7 76 0 1 9 9 0 1 7 106 0 1 9 1 7 178
    0 1 7 1 9 80 0 2 7 16 0 1 9 24 0 7 230 3 0 5 230 205 0 1 9 3 0 1 7 23 0 1 230 99 0 1 9 1 7
    251 0 1 9 1 7 126 0 1 9 118 0 1 9 1 7 115 0 1 9 269 0 1 9 1 7 258 0 2 9 4 0 1 7 156 0 1 9 83
    0 1 9 18 0 1 9 81 0 1 9 421 0 1 9 258 0 1 7 1 0 2 9 81 0 1 9 425 0 2 9 19373 0 5 1 59 0 7
    230 1209 0 2 6 19628 0 1 1 5318 0 2 216 3 1 3 0 1 226 5 216 8 0 8 220 2 0 5 230 2 220 30 0 4
    230 148 0 3 230 3515 0 7 230 1 0 17 230 2 0 7 230 1 0 2 230 1 0 5 230 100 0 1 230 160 0 7
    230 375 0 1 230 61 0 4 230 508 0 2 232 1 220 1 230 992 0 7 220 109 0 6 230 1 7 988853 0"))

/-- The canonical combining class of a code point. -/
def combiningClass (n : Nat) : Nat :=
  (combiningClasses.find? n).getD 0

/-- Characters with a composed form: the character, its first part and its second part. -/
def compositions : Array (Nat × Nat × Nat) := (threes (numbers
  "192 65 768 193 65 769 194 65 770 195 65 771 196 65 776 197 65 778 199 67 807 200 69 768 201
    69 769 202 69 770 203 69 776 204 73 768 205 73 769 206 73 770 207 73 776 209 78 771 210 79
    768 211 79 769 212 79 770 213 79 771 214 79 776 217 85 768 218 85 769 219 85 770 220 85 776
    221 89 769 224 97 768 225 97 769 226 97 770 227 97 771 228 97 776 229 97 778 231 99 807 232
    101 768 233 101 769 234 101 770 235 101 776 236 105 768 237 105 769 238 105 770 239 105 776
    241 110 771 242 111 768 243 111 769 244 111 770 245 111 771 246 111 776 249 117 768 250 117
    769 251 117 770 252 117 776 253 121 769 255 121 776 256 65 772 257 97 772 258 65 774 259 97
    774 260 65 808 261 97 808 262 67 769 263 99 769 264 67 770 265 99 770 266 67 775 267 99 775
    268 67 780 269 99 780 270 68 780 271 100 780 274 69 772 275 101 772 276 69 774 277 101 774
    278 69 775 279 101 775 280 69 808 281 101 808 282 69 780 283 101 780 284 71 770 285 103 770
    286 71 774 287 103 774 288 71 775 289 103 775 290 71 807 291 103 807 292 72 770 293 104 770
    296 73 771 297 105 771 298 73 772 299 105 772 300 73 774 301 105 774 302 73 808 303 105 808
    304 73 775 308 74 770 309 106 770 310 75 807 311 107 807 313 76 769 314 108 769 315 76 807
    316 108 807 317 76 780 318 108 780 323 78 769 324 110 769 325 78 807 326 110 807 327 78 780
    328 110 780 332 79 772 333 111 772 334 79 774 335 111 774 336 79 779 337 111 779 340 82 769
    341 114 769 342 82 807 343 114 807 344 82 780 345 114 780 346 83 769 347 115 769 348 83 770
    349 115 770 350 83 807 351 115 807 352 83 780 353 115 780 354 84 807 355 116 807 356 84 780
    357 116 780 360 85 771 361 117 771 362 85 772 363 117 772 364 85 774 365 117 774 366 85 778
    367 117 778 368 85 779 369 117 779 370 85 808 371 117 808 372 87 770 373 119 770 374 89 770
    375 121 770 376 89 776 377 90 769 378 122 769 379 90 775 380 122 775 381 90 780 382 122 780
    416 79 795 417 111 795 431 85 795 432 117 795 461 65 780 462 97 780 463 73 780 464 105 780
    465 79 780 466 111 780 467 85 780 468 117 780 469 220 772 470 252 772 471 220 769 472 252
    769 473 220 780 474 252 780 475 220 768 476 252 768 478 196 772 479 228 772 480 550 772 481
    551 772 482 198 772 483 230 772 486 71 780 487 103 780 488 75 780 489 107 780 490 79 808 491
    111 808 492 490 772 493 491 772 494 439 780 495 658 780 496 106 780 500 71 769 501 103 769
    504 78 768 505 110 768 506 197 769 507 229 769 508 198 769 509 230 769 510 216 769 511 248
    769 512 65 783 513 97 783 514 65 785 515 97 785 516 69 783 517 101 783 518 69 785 519 101
    785 520 73 783 521 105 783 522 73 785 523 105 785 524 79 783 525 111 783 526 79 785 527 111
    785 528 82 783 529 114 783 530 82 785 531 114 785 532 85 783 533 117 783 534 85 785 535 117
    785 536 83 806 537 115 806 538 84 806 539 116 806 542 72 780 543 104 780 550 65 775 551 97
    775 552 69 807 553 101 807 554 214 772 555 246 772 556 213 772 557 245 772 558 79 775 559
    111 775 560 558 772 561 559 772 562 89 772 563 121 772 901 168 769 902 913 769 904 917 769
    905 919 769 906 921 769 908 927 769 910 933 769 911 937 769 912 970 769 938 921 776 939 933
    776 940 945 769 941 949 769 942 951 769 943 953 769 944 971 769 970 953 776 971 965 776 972
    959 769 973 965 769 974 969 769 979 978 769 980 978 776 1024 1045 768 1025 1045 776 1027
    1043 769 1031 1030 776 1036 1050 769 1037 1048 768 1038 1059 774 1049 1048 774 1081 1080 774
    1104 1077 768 1105 1077 776 1107 1075 769 1111 1110 776 1116 1082 769 1117 1080 768 1118
    1091 774 1142 1140 783 1143 1141 783 1217 1046 774 1218 1078 774 1232 1040 774 1233 1072 774
    1234 1040 776 1235 1072 776 1238 1045 774 1239 1077 774 1242 1240 776 1243 1241 776 1244
    1046 776 1245 1078 776 1246 1047 776 1247 1079 776 1250 1048 772 1251 1080 772 1252 1048 776
    1253 1080 776 1254 1054 776 1255 1086 776 1258 1256 776 1259 1257 776 1260 1069 776 1261
    1101 776 1262 1059 772 1263 1091 772 1264 1059 776 1265 1091 776 1266 1059 779 1267 1091 779
    1268 1063 776 1269 1095 776 1272 1067 776 1273 1099 776 1570 1575 1619 1571 1575 1620 1572
    1608 1620 1573 1575 1621 1574 1610 1620 1728 1749 1620 1730 1729 1620 1747 1746 1620 2345
    2344 2364 2353 2352 2364 2356 2355 2364 2507 2503 2494 2508 2503 2519 2888 2887 2902 2891
    2887 2878 2892 2887 2903 2964 2962 3031 3018 3014 3006 3019 3015 3006 3020 3014 3031 3144
    3142 3158 3264 3263 3285 3271 3270 3285 3272 3270 3286 3274 3270 3266 3275 3274 3285 3402
    3398 3390 3403 3399 3390 3404 3398 3415 3546 3545 3530 3548 3545 3535 3549 3548 3530 3550
    3545 3551 4134 4133 4142 6918 6917 6965 6920 6919 6965 6922 6921 6965 6924 6923 6965 6926
    6925 6965 6930 6929 6965 6971 6970 6965 6973 6972 6965 6976 6974 6965 6977 6975 6965 6979
    6978 6965 7680 65 805 7681 97 805 7682 66 775 7683 98 775 7684 66 803 7685 98 803 7686 66
    817 7687 98 817 7688 199 769 7689 231 769 7690 68 775 7691 100 775 7692 68 803 7693 100 803
    7694 68 817 7695 100 817 7696 68 807 7697 100 807 7698 68 813 7699 100 813 7700 274 768 7701
    275 768 7702 274 769 7703 275 769 7704 69 813 7705 101 813 7706 69 816 7707 101 816 7708 552
    774 7709 553 774 7710 70 775 7711 102 775 7712 71 772 7713 103 772 7714 72 775 7715 104 775
    7716 72 803 7717 104 803 7718 72 776 7719 104 776 7720 72 807 7721 104 807 7722 72 814 7723
    104 814 7724 73 816 7725 105 816 7726 207 769 7727 239 769 7728 75 769 7729 107 769 7730 75
    803 7731 107 803 7732 75 817 7733 107 817 7734 76 803 7735 108 803 7736 7734 772 7737 7735
    772 7738 76 817 7739 108 817 7740 76 813 7741 108 813 7742 77 769 7743 109 769 7744 77 775
    7745 109 775 7746 77 803 7747 109 803 7748 78 775 7749 110 775 7750 78 803 7751 110 803 7752
    78 817 7753 110 817 7754 78 813 7755 110 813 7756 213 769 7757 245 769 7758 213 776 7759 245
    776 7760 332 768 7761 333 768 7762 332 769 7763 333 769 7764 80 769 7765 112 769 7766 80 775
    7767 112 775 7768 82 775 7769 114 775 7770 82 803 7771 114 803 7772 7770 772 7773 7771 772
    7774 82 817 7775 114 817 7776 83 775 7777 115 775 7778 83 803 7779 115 803 7780 346 775 7781
    347 775 7782 352 775 7783 353 775 7784 7778 775 7785 7779 775 7786 84 775 7787 116 775 7788
    84 803 7789 116 803 7790 84 817 7791 116 817 7792 84 813 7793 116 813 7794 85 804 7795 117
    804 7796 85 816 7797 117 816 7798 85 813 7799 117 813 7800 360 769 7801 361 769 7802 362 776
    7803 363 776 7804 86 771 7805 118 771 7806 86 803 7807 118 803 7808 87 768 7809 119 768 7810
    87 769 7811 119 769 7812 87 776 7813 119 776 7814 87 775 7815 119 775 7816 87 803 7817 119
    803 7818 88 775 7819 120 775 7820 88 776 7821 120 776 7822 89 775 7823 121 775 7824 90 770
    7825 122 770 7826 90 803 7827 122 803 7828 90 817 7829 122 817 7830 104 817 7831 116 776
    7832 119 778 7833 121 778 7835 383 775 7840 65 803 7841 97 803 7842 65 777 7843 97 777 7844
    194 769 7845 226 769 7846 194 768 7847 226 768 7848 194 777 7849 226 777 7850 194 771 7851
    226 771 7852 7840 770 7853 7841 770 7854 258 769 7855 259 769 7856 258 768 7857 259 768 7858
    258 777 7859 259 777 7860 258 771 7861 259 771 7862 7840 774 7863 7841 774 7864 69 803 7865
    101 803 7866 69 777 7867 101 777 7868 69 771 7869 101 771 7870 202 769 7871 234 769 7872 202
    768 7873 234 768 7874 202 777 7875 234 777 7876 202 771 7877 234 771 7878 7864 770 7879 7865
    770 7880 73 777 7881 105 777 7882 73 803 7883 105 803 7884 79 803 7885 111 803 7886 79 777
    7887 111 777 7888 212 769 7889 244 769 7890 212 768 7891 244 768 7892 212 777 7893 244 777
    7894 212 771 7895 244 771 7896 7884 770 7897 7885 770 7898 416 769 7899 417 769 7900 416 768
    7901 417 768 7902 416 777 7903 417 777 7904 416 771 7905 417 771 7906 416 803 7907 417 803
    7908 85 803 7909 117 803 7910 85 777 7911 117 777 7912 431 769 7913 432 769 7914 431 768
    7915 432 768 7916 431 777 7917 432 777 7918 431 771 7919 432 771 7920 431 803 7921 432 803
    7922 89 768 7923 121 768 7924 89 803 7925 121 803 7926 89 777 7927 121 777 7928 89 771 7929
    121 771 7936 945 787 7937 945 788 7938 7936 768 7939 7937 768 7940 7936 769 7941 7937 769
    7942 7936 834 7943 7937 834 7944 913 787 7945 913 788 7946 7944 768 7947 7945 768 7948 7944
    769 7949 7945 769 7950 7944 834 7951 7945 834 7952 949 787 7953 949 788 7954 7952 768 7955
    7953 768 7956 7952 769 7957 7953 769 7960 917 787 7961 917 788 7962 7960 768 7963 7961 768
    7964 7960 769 7965 7961 769 7968 951 787 7969 951 788 7970 7968 768 7971 7969 768 7972 7968
    769 7973 7969 769 7974 7968 834 7975 7969 834 7976 919 787 7977 919 788 7978 7976 768 7979
    7977 768 7980 7976 769 7981 7977 769 7982 7976 834 7983 7977 834 7984 953 787 7985 953 788
    7986 7984 768 7987 7985 768 7988 7984 769 7989 7985 769 7990 7984 834 7991 7985 834 7992 921
    787 7993 921 788 7994 7992 768 7995 7993 768 7996 7992 769 7997 7993 769 7998 7992 834 7999
    7993 834 8000 959 787 8001 959 788 8002 8000 768 8003 8001 768 8004 8000 769 8005 8001 769
    8008 927 787 8009 927 788 8010 8008 768 8011 8009 768 8012 8008 769 8013 8009 769 8016 965
    787 8017 965 788 8018 8016 768 8019 8017 768 8020 8016 769 8021 8017 769 8022 8016 834 8023
    8017 834 8025 933 788 8027 8025 768 8029 8025 769 8031 8025 834 8032 969 787 8033 969 788
    8034 8032 768 8035 8033 768 8036 8032 769 8037 8033 769 8038 8032 834 8039 8033 834 8040 937
    787 8041 937 788 8042 8040 768 8043 8041 768 8044 8040 769 8045 8041 769 8046 8040 834 8047
    8041 834 8048 945 768 8050 949 768 8052 951 768 8054 953 768 8056 959 768 8058 965 768 8060
    969 768 8064 7936 837 8065 7937 837 8066 7938 837 8067 7939 837 8068 7940 837 8069 7941 837
    8070 7942 837 8071 7943 837 8072 7944 837 8073 7945 837 8074 7946 837 8075 7947 837 8076
    7948 837 8077 7949 837 8078 7950 837 8079 7951 837 8080 7968 837 8081 7969 837 8082 7970 837
    8083 7971 837 8084 7972 837 8085 7973 837 8086 7974 837 8087 7975 837 8088 7976 837 8089
    7977 837 8090 7978 837 8091 7979 837 8092 7980 837 8093 7981 837 8094 7982 837 8095 7983 837
    8096 8032 837 8097 8033 837 8098 8034 837 8099 8035 837 8100 8036 837 8101 8037 837 8102
    8038 837 8103 8039 837 8104 8040 837 8105 8041 837 8106 8042 837 8107 8043 837 8108 8044 837
    8109 8045 837 8110 8046 837 8111 8047 837 8112 945 774 8113 945 772 8114 8048 837 8115 945
    837 8116 940 837 8118 945 834 8119 8118 837 8120 913 774 8121 913 772 8122 913 768 8124 913
    837 8129 168 834 8130 8052 837 8131 951 837 8132 942 837 8134 951 834 8135 8134 837 8136 917
    768 8138 919 768 8140 919 837 8141 8127 768 8142 8127 769 8143 8127 834 8144 953 774 8145
    953 772 8146 970 768 8150 953 834 8151 970 834 8152 921 774 8153 921 772 8154 921 768 8157
    8190 768 8158 8190 769 8159 8190 834 8160 965 774 8161 965 772 8162 971 768 8164 961 787
    8165 961 788 8166 965 834 8167 971 834 8168 933 774 8169 933 772 8170 933 768 8172 929 788
    8173 168 768 8178 8060 837 8179 969 837 8180 974 837 8182 969 834 8183 8182 837 8184 927 768
    8186 937 768 8188 937 837 8602 8592 824 8603 8594 824 8622 8596 824 8653 8656 824 8654 8660
    824 8655 8658 824 8708 8707 824 8713 8712 824 8716 8715 824 8740 8739 824 8742 8741 824 8769
    8764 824 8772 8771 824 8775 8773 824 8777 8776 824 8800 61 824 8802 8801 824 8813 8781 824
    8814 60 824 8815 62 824 8816 8804 824 8817 8805 824 8820 8818 824 8821 8819 824 8824 8822
    824 8825 8823 824 8832 8826 824 8833 8827 824 8836 8834 824 8837 8835 824 8840 8838 824 8841
    8839 824 8876 8866 824 8877 8872 824 8878 8873 824 8879 8875 824 8928 8828 824 8929 8829 824
    8930 8849 824 8931 8850 824 8938 8882 824 8939 8883 824 8940 8884 824 8941 8885 824 12364
    12363 12441 12366 12365 12441 12368 12367 12441 12370 12369 12441 12372 12371 12441 12374
    12373 12441 12376 12375 12441 12378 12377 12441 12380 12379 12441 12382 12381 12441 12384
    12383 12441 12386 12385 12441 12389 12388 12441 12391 12390 12441 12393 12392 12441 12400
    12399 12441 12401 12399 12442 12403 12402 12441 12404 12402 12442 12406 12405 12441 12407
    12405 12442 12409 12408 12441 12410 12408 12442 12412 12411 12441 12413 12411 12442 12436
    12358 12441 12446 12445 12441 12460 12459 12441 12462 12461 12441 12464 12463 12441 12466
    12465 12441 12468 12467 12441 12470 12469 12441 12472 12471 12441 12474 12473 12441 12476
    12475 12441 12478 12477 12441 12480 12479 12441 12482 12481 12441 12485 12484 12441 12487
    12486 12441 12489 12488 12441 12496 12495 12441 12497 12495 12442 12499 12498 12441 12500
    12498 12442 12502 12501 12441 12503 12501 12442 12505 12504 12441 12506 12504 12442 12508
    12507 12441 12509 12507 12442 12532 12454 12441 12535 12527 12441 12536 12528 12441 12537
    12529 12441 12538 12530 12441 12542 12541 12441 67017 67026 775 67044 67034 775 69786 69785
    69818 69788 69787 69818 69803 69797 69818 69934 69937 69927 69935 69938 69927 70475 70471
    70462 70476 70471 70487 70531 70530 70601 70533 70532 70587 70542 70539 70594 70545 70544
    70601 70597 70594 70594 70599 70594 70584 70600 70594 70601 70843 70841 70842 70844 70841
    70832 70846 70841 70845 71098 71096 71087 71099 71097 71087 71992 71989 71984 90401 90398
    90398 90402 90398 90409 90403 90398 90399 90404 90409 90399 90405 90398 90400 90406 90401
    90399 90407 90402 90399 90408 90401 90400 93544 93543 93543 93545 93539 93543 93546 93545
    93543")).toArray

/-- Characters that are only ever taken apart: the character and its parts. -/
def decompositions : Array (Nat × List Nat) := (countedRows (numbers
  "832 1 768 833 1 769 835 1 787 836 2 776 769 884 1 697 894 1 59 903 1 183 2392 2 2325 2364
    2393 2 2326 2364 2394 2 2327 2364 2395 2 2332 2364 2396 2 2337 2364 2397 2 2338 2364 2398 2
    2347 2364 2399 2 2351 2364 2524 2 2465 2492 2525 2 2466 2492 2527 2 2479 2492 2611 2 2610
    2620 2614 2 2616 2620 2649 2 2582 2620 2650 2 2583 2620 2651 2 2588 2620 2654 2 2603 2620
    2908 2 2849 2876 2909 2 2850 2876 3907 2 3906 4023 3917 2 3916 4023 3922 2 3921 4023 3927 2
    3926 4023 3932 2 3931 4023 3945 2 3904 4021 3955 2 3953 3954 3957 2 3953 3956 3958 2 4018
    3968 3960 2 4019 3968 3969 2 3953 3968 3987 2 3986 4023 3997 2 3996 4023 4002 2 4001 4023
    4007 2 4006 4023 4012 2 4011 4023 4025 2 3984 4021 8049 2 945 769 8051 2 949 769 8053 2 951
    769 8055 2 953 769 8057 2 959 769 8059 2 965 769 8061 2 969 769 8123 2 913 769 8126 1 953
    8137 2 917 769 8139 2 919 769 8147 3 953 776 769 8155 2 921 769 8163 3 965 776 769 8171 2
    933 769 8174 2 168 769 8175 1 96 8185 2 927 769 8187 2 937 769 8189 1 180 8192 1 8194 8193 1
    8195 8486 1 937 8490 1 75 8491 2 65 778 9001 1 12296 9002 1 12297 10972 2 10973 824 63744 1
    35912 63745 1 26356 63746 1 36554 63747 1 36040 63748 1 28369 63749 1 20018 63750 1 21477
    63751 1 40860 63752 1 40860 63753 1 22865 63754 1 37329 63755 1 21895 63756 1 22856 63757 1
    25078 63758 1 30313 63759 1 32645 63760 1 34367 63761 1 34746 63762 1 35064 63763 1 37007
    63764 1 27138 63765 1 27931 63766 1 28889 63767 1 29662 63768 1 33853 63769 1 37226 63770 1
    39409 63771 1 20098 63772 1 21365 63773 1 27396 63774 1 29211 63775 1 34349 63776 1 40478
    63777 1 23888 63778 1 28651 63779 1 34253 63780 1 35172 63781 1 25289 63782 1 33240 63783 1
    34847 63784 1 24266 63785 1 26391 63786 1 28010 63787 1 29436 63788 1 37070 63789 1 20358
    63790 1 20919 63791 1 21214 63792 1 25796 63793 1 27347 63794 1 29200 63795 1 30439 63796 1
    32769 63797 1 34310 63798 1 34396 63799 1 36335 63800 1 38706 63801 1 39791 63802 1 40442
    63803 1 30860 63804 1 31103 63805 1 32160 63806 1 33737 63807 1 37636 63808 1 40575 63809 1
    35542 63810 1 22751 63811 1 24324 63812 1 31840 63813 1 32894 63814 1 29282 63815 1 30922
    63816 1 36034 63817 1 38647 63818 1 22744 63819 1 23650 63820 1 27155 63821 1 28122 63822 1
    28431 63823 1 32047 63824 1 32311 63825 1 38475 63826 1 21202 63827 1 32907 63828 1 20956
    63829 1 20940 63830 1 31260 63831 1 32190 63832 1 33777 63833 1 38517 63834 1 35712 63835 1
    25295 63836 1 27138 63837 1 35582 63838 1 20025 63839 1 23527 63840 1 24594 63841 1 29575
    63842 1 30064 63843 1 21271 63844 1 30971 63845 1 20415 63846 1 24489 63847 1 19981 63848 1
    27852 63849 1 25976 63850 1 32034 63851 1 21443 63852 1 22622 63853 1 30465 63854 1 33865
    63855 1 35498 63856 1 27578 63857 1 36784 63858 1 27784 63859 1 25342 63860 1 33509 63861 1
    25504 63862 1 30053 63863 1 20142 63864 1 20841 63865 1 20937 63866 1 26753 63867 1 31975
    63868 1 33391 63869 1 35538 63870 1 37327 63871 1 21237 63872 1 21570 63873 1 22899 63874 1
    24300 63875 1 26053 63876 1 28670 63877 1 31018 63878 1 38317 63879 1 39530 63880 1 40599
    63881 1 40654 63882 1 21147 63883 1 26310 63884 1 27511 63885 1 36706 63886 1 24180 63887 1
    24976 63888 1 25088 63889 1 25754 63890 1 28451 63891 1 29001 63892 1 29833 63893 1 31178
    63894 1 32244 63895 1 32879 63896 1 36646 63897 1 34030 63898 1 36899 63899 1 37706 63900 1
    21015 63901 1 21155 63902 1 21693 63903 1 28872 63904 1 35010 63905 1 35498 63906 1 24265
    63907 1 24565 63908 1 25467 63909 1 27566 63910 1 31806 63911 1 29557 63912 1 20196 63913 1
    22265 63914 1 23527 63915 1 23994 63916 1 24604 63917 1 29618 63918 1 29801 63919 1 32666
    63920 1 32838 63921 1 37428 63922 1 38646 63923 1 38728 63924 1 38936 63925 1 20363 63926 1
    31150 63927 1 37300 63928 1 38584 63929 1 24801 63930 1 20102 63931 1 20698 63932 1 23534
    63933 1 23615 63934 1 26009 63935 1 27138 63936 1 29134 63937 1 30274 63938 1 34044 63939 1
    36988 63940 1 40845 63941 1 26248 63942 1 38446 63943 1 21129 63944 1 26491 63945 1 26611
    63946 1 27969 63947 1 28316 63948 1 29705 63949 1 30041 63950 1 30827 63951 1 32016 63952 1
    39006 63953 1 20845 63954 1 25134 63955 1 38520 63956 1 20523 63957 1 23833 63958 1 28138
    63959 1 36650 63960 1 24459 63961 1 24900 63962 1 26647 63963 1 29575 63964 1 38534 63965 1
    21033 63966 1 21519 63967 1 23653 63968 1 26131 63969 1 26446 63970 1 26792 63971 1 27877
    63972 1 29702 63973 1 30178 63974 1 32633 63975 1 35023 63976 1 35041 63977 1 37324 63978 1
    38626 63979 1 21311 63980 1 28346 63981 1 21533 63982 1 29136 63983 1 29848 63984 1 34298
    63985 1 38563 63986 1 40023 63987 1 40607 63988 1 26519 63989 1 28107 63990 1 33256 63991 1
    31435 63992 1 31520 63993 1 31890 63994 1 29376 63995 1 28825 63996 1 35672 63997 1 20160
    63998 1 33590 63999 1 21050 64000 1 20999 64001 1 24230 64002 1 25299 64003 1 31958 64004 1
    23429 64005 1 27934 64006 1 26292 64007 1 36667 64008 1 34892 64009 1 38477 64010 1 35211
    64011 1 24275 64012 1 20800 64013 1 21952 64016 1 22618 64018 1 26228 64021 1 20958 64022 1
    29482 64023 1 30410 64024 1 31036 64025 1 31070 64026 1 31077 64027 1 31119 64028 1 38742
    64029 1 31934 64030 1 32701 64032 1 34322 64034 1 35576 64037 1 36920 64038 1 37117 64042 1
    39151 64043 1 39164 64044 1 39208 64045 1 40372 64046 1 37086 64047 1 38583 64048 1 20398
    64049 1 20711 64050 1 20813 64051 1 21193 64052 1 21220 64053 1 21329 64054 1 21917 64055 1
    22022 64056 1 22120 64057 1 22592 64058 1 22696 64059 1 23652 64060 1 23662 64061 1 24724
    64062 1 24936 64063 1 24974 64064 1 25074 64065 1 25935 64066 1 26082 64067 1 26257 64068 1
    26757 64069 1 28023 64070 1 28186 64071 1 28450 64072 1 29038 64073 1 29227 64074 1 29730
    64075 1 30865 64076 1 31038 64077 1 31049 64078 1 31048 64079 1 31056 64080 1 31062 64081 1
    31069 64082 1 31117 64083 1 31118 64084 1 31296 64085 1 31361 64086 1 31680 64087 1 32244
    64088 1 32265 64089 1 32321 64090 1 32626 64091 1 32773 64092 1 33261 64093 1 33401 64094 1
    33401 64095 1 33879 64096 1 35088 64097 1 35222 64098 1 35585 64099 1 35641 64100 1 36051
    64101 1 36104 64102 1 36790 64103 1 36920 64104 1 38627 64105 1 38911 64106 1 38971 64107 1
    24693 64108 1 148206 64109 1 33304 64112 1 20006 64113 1 20917 64114 1 20840 64115 1 20352
    64116 1 20805 64117 1 20864 64118 1 21191 64119 1 21242 64120 1 21917 64121 1 21845 64122 1
    21913 64123 1 21986 64124 1 22618 64125 1 22707 64126 1 22852 64127 1 22868 64128 1 23138
    64129 1 23336 64130 1 24274 64131 1 24281 64132 1 24425 64133 1 24493 64134 1 24792 64135 1
    24910 64136 1 24840 64137 1 24974 64138 1 24928 64139 1 25074 64140 1 25140 64141 1 25540
    64142 1 25628 64143 1 25682 64144 1 25942 64145 1 26228 64146 1 26391 64147 1 26395 64148 1
    26454 64149 1 27513 64150 1 27578 64151 1 27969 64152 1 28379 64153 1 28363 64154 1 28450
    64155 1 28702 64156 1 29038 64157 1 30631 64158 1 29237 64159 1 29359 64160 1 29482 64161 1
    29809 64162 1 29958 64163 1 30011 64164 1 30237 64165 1 30239 64166 1 30410 64167 1 30427
    64168 1 30452 64169 1 30538 64170 1 30528 64171 1 30924 64172 1 31409 64173 1 31680 64174 1
    31867 64175 1 32091 64176 1 32244 64177 1 32574 64178 1 32773 64179 1 33618 64180 1 33775
    64181 1 34681 64182 1 35137 64183 1 35206 64184 1 35222 64185 1 35519 64186 1 35576 64187 1
    35531 64188 1 35585 64189 1 35582 64190 1 35565 64191 1 35641 64192 1 35722 64193 1 36104
    64194 1 36664 64195 1 36978 64196 1 37273 64197 1 37494 64198 1 38524 64199 1 38627 64200 1
    38742 64201 1 38875 64202 1 38911 64203 1 38923 64204 1 38971 64205 1 39698 64206 1 40860
    64207 1 141386 64208 1 141380 64209 1 144341 64210 1 15261 64211 1 16408 64212 1 16441 64213
    1 152137 64214 1 154832 64215 1 163539 64216 1 40771 64217 1 40846 64285 2 1497 1460 64287 2
    1522 1463 64298 2 1513 1473 64299 2 1513 1474 64300 3 1513 1468 1473 64301 3 1513 1468 1474
    64302 2 1488 1463 64303 2 1488 1464 64304 2 1488 1468 64305 2 1489 1468 64306 2 1490 1468
    64307 2 1491 1468 64308 2 1492 1468 64309 2 1493 1468 64310 2 1494 1468 64312 2 1496 1468
    64313 2 1497 1468 64314 2 1498 1468 64315 2 1499 1468 64316 2 1500 1468 64318 2 1502 1468
    64320 2 1504 1468 64321 2 1505 1468 64323 2 1507 1468 64324 2 1508 1468 64326 2 1510 1468
    64327 2 1511 1468 64328 2 1512 1468 64329 2 1513 1468 64330 2 1514 1468 64331 2 1493 1465
    64332 2 1489 1471 64333 2 1499 1471 64334 2 1508 1471 119134 2 119127 119141 119135 2 119128
    119141 119136 3 119128 119141 119150 119137 3 119128 119141 119151 119138 3 119128 119141
    119152 119139 3 119128 119141 119153 119140 3 119128 119141 119154 119227 2 119225 119141
    119228 2 119226 119141 119229 3 119225 119141 119150 119230 3 119226 119141 119150 119231 3
    119225 119141 119151 119232 3 119226 119141 119151 194560 1 20029 194561 1 20024 194562 1
    20033 194563 1 131362 194564 1 20320 194565 1 20398 194566 1 20411 194567 1 20482 194568 1
    20602 194569 1 20633 194570 1 20711 194571 1 20687 194572 1 13470 194573 1 132666 194574 1
    20813 194575 1 20820 194576 1 20836 194577 1 20855 194578 1 132380 194579 1 13497 194580 1
    20839 194581 1 20877 194582 1 132427 194583 1 20887 194584 1 20900 194585 1 20172 194586 1
    20908 194587 1 20917 194588 1 168415 194589 1 20981 194590 1 20995 194591 1 13535 194592 1
    21051 194593 1 21062 194594 1 21106 194595 1 21111 194596 1 13589 194597 1 21191 194598 1
    21193 194599 1 21220 194600 1 21242 194601 1 21253 194602 1 21254 194603 1 21271 194604 1
    21321 194605 1 21329 194606 1 21338 194607 1 21363 194608 1 21373 194609 1 21375 194610 1
    21375 194611 1 21375 194612 1 133676 194613 1 28784 194614 1 21450 194615 1 21471 194616 1
    133987 194617 1 21483 194618 1 21489 194619 1 21510 194620 1 21662 194621 1 21560 194622 1
    21576 194623 1 21608 194624 1 21666 194625 1 21750 194626 1 21776 194627 1 21843 194628 1
    21859 194629 1 21892 194630 1 21892 194631 1 21913 194632 1 21931 194633 1 21939 194634 1
    21954 194635 1 22294 194636 1 22022 194637 1 22295 194638 1 22097 194639 1 22132 194640 1
    20999 194641 1 22766 194642 1 22478 194643 1 22516 194644 1 22541 194645 1 22411 194646 1
    22578 194647 1 22577 194648 1 22700 194649 1 136420 194650 1 22770 194651 1 22775 194652 1
    22790 194653 1 22810 194654 1 22818 194655 1 22882 194656 1 136872 194657 1 136938 194658 1
    23020 194659 1 23067 194660 1 23079 194661 1 23000 194662 1 23142 194663 1 14062 194664 1
    14076 194665 1 23304 194666 1 23358 194667 1 23358 194668 1 137672 194669 1 23491 194670 1
    23512 194671 1 23527 194672 1 23539 194673 1 138008 194674 1 23551 194675 1 23558 194676 1
    24403 194677 1 23586 194678 1 14209 194679 1 23648 194680 1 23662 194681 1 23744 194682 1
    23693 194683 1 138724 194684 1 23875 194685 1 138726 194686 1 23918 194687 1 23915 194688 1
    23932 194689 1 24033 194690 1 24034 194691 1 14383 194692 1 24061 194693 1 24104 194694 1
    24125 194695 1 24169 194696 1 14434 194697 1 139651 194698 1 14460 194699 1 24240 194700 1
    24243 194701 1 24246 194702 1 24266 194703 1 172946 194704 1 24318 194705 1 140081 194706 1
    140081 194707 1 33281 194708 1 24354 194709 1 24354 194710 1 14535 194711 1 144056 194712 1
    156122 194713 1 24418 194714 1 24427 194715 1 14563 194716 1 24474 194717 1 24525 194718 1
    24535 194719 1 24569 194720 1 24705 194721 1 14650 194722 1 14620 194723 1 24724 194724 1
    141012 194725 1 24775 194726 1 24904 194727 1 24908 194728 1 24910 194729 1 24908 194730 1
    24954 194731 1 24974 194732 1 25010 194733 1 24996 194734 1 25007 194735 1 25054 194736 1
    25074 194737 1 25078 194738 1 25104 194739 1 25115 194740 1 25181 194741 1 25265 194742 1
    25300 194743 1 25424 194744 1 142092 194745 1 25405 194746 1 25340 194747 1 25448 194748 1
    25475 194749 1 25572 194750 1 142321 194751 1 25634 194752 1 25541 194753 1 25513 194754 1
    14894 194755 1 25705 194756 1 25726 194757 1 25757 194758 1 25719 194759 1 14956 194760 1
    25935 194761 1 25964 194762 1 143370 194763 1 26083 194764 1 26360 194765 1 26185 194766 1
    15129 194767 1 26257 194768 1 15112 194769 1 15076 194770 1 20882 194771 1 20885 194772 1
    26368 194773 1 26268 194774 1 32941 194775 1 17369 194776 1 26391 194777 1 26395 194778 1
    26401 194779 1 26462 194780 1 26451 194781 1 144323 194782 1 15177 194783 1 26618 194784 1
    26501 194785 1 26706 194786 1 26757 194787 1 144493 194788 1 26766 194789 1 26655 194790 1
    26900 194791 1 15261 194792 1 26946 194793 1 27043 194794 1 27114 194795 1 27304 194796 1
    145059 194797 1 27355 194798 1 15384 194799 1 27425 194800 1 145575 194801 1 27476 194802 1
    15438 194803 1 27506 194804 1 27551 194805 1 27578 194806 1 27579 194807 1 146061 194808 1
    138507 194809 1 146170 194810 1 27726 194811 1 146620 194812 1 27839 194813 1 27853 194814 1
    27751 194815 1 27926 194816 1 27966 194817 1 28023 194818 1 27969 194819 1 28009 194820 1
    28024 194821 1 28037 194822 1 146718 194823 1 27956 194824 1 28207 194825 1 28270 194826 1
    15667 194827 1 28363 194828 1 28359 194829 1 147153 194830 1 28153 194831 1 28526 194832 1
    147294 194833 1 147342 194834 1 28614 194835 1 28729 194836 1 28702 194837 1 28699 194838 1
    15766 194839 1 28746 194840 1 28797 194841 1 28791 194842 1 28845 194843 1 132389 194844 1
    28997 194845 1 148067 194846 1 29084 194847 1 148395 194848 1 29224 194849 1 29237 194850 1
    29264 194851 1 149000 194852 1 29312 194853 1 29333 194854 1 149301 194855 1 149524 194856 1
    29562 194857 1 29579 194858 1 16044 194859 1 29605 194860 1 16056 194861 1 16056 194862 1
    29767 194863 1 29788 194864 1 29809 194865 1 29829 194866 1 29898 194867 1 16155 194868 1
    29988 194869 1 150582 194870 1 30014 194871 1 150674 194872 1 30064 194873 1 139679 194874 1
    30224 194875 1 151457 194876 1 151480 194877 1 151620 194878 1 16380 194879 1 16392 194880 1
    30452 194881 1 151795 194882 1 151794 194883 1 151833 194884 1 151859 194885 1 30494 194886
    1 30495 194887 1 30495 194888 1 30538 194889 1 16441 194890 1 30603 194891 1 16454 194892 1
    16534 194893 1 152605 194894 1 30798 194895 1 30860 194896 1 30924 194897 1 16611 194898 1
    153126 194899 1 31062 194900 1 153242 194901 1 153285 194902 1 31119 194903 1 31211 194904 1
    16687 194905 1 31296 194906 1 31306 194907 1 31311 194908 1 153980 194909 1 154279 194910 1
    154279 194911 1 31470 194912 1 16898 194913 1 154539 194914 1 31686 194915 1 31689 194916 1
    16935 194917 1 154752 194918 1 31954 194919 1 17056 194920 1 31976 194921 1 31971 194922 1
    32000 194923 1 155526 194924 1 32099 194925 1 17153 194926 1 32199 194927 1 32258 194928 1
    32325 194929 1 17204 194930 1 156200 194931 1 156231 194932 1 17241 194933 1 156377 194934 1
    32634 194935 1 156478 194936 1 32661 194937 1 32762 194938 1 32773 194939 1 156890 194940 1
    156963 194941 1 32864 194942 1 157096 194943 1 32880 194944 1 144223 194945 1 17365 194946 1
    32946 194947 1 33027 194948 1 17419 194949 1 33086 194950 1 23221 194951 1 157607 194952 1
    157621 194953 1 144275 194954 1 144284 194955 1 33281 194956 1 33284 194957 1 36766 194958 1
    17515 194959 1 33425 194960 1 33419 194961 1 33437 194962 1 21171 194963 1 33457 194964 1
    33459 194965 1 33469 194966 1 33510 194967 1 158524 194968 1 33509 194969 1 33565 194970 1
    33635 194971 1 33709 194972 1 33571 194973 1 33725 194974 1 33767 194975 1 33879 194976 1
    33619 194977 1 33738 194978 1 33740 194979 1 33756 194980 1 158774 194981 1 159083 194982 1
    158933 194983 1 17707 194984 1 34033 194985 1 34035 194986 1 34070 194987 1 160714 194988 1
    34148 194989 1 159532 194990 1 17757 194991 1 17761 194992 1 159665 194993 1 159954 194994 1
    17771 194995 1 34384 194996 1 34396 194997 1 34407 194998 1 34409 194999 1 34473 195000 1
    34440 195001 1 34574 195002 1 34530 195003 1 34681 195004 1 34600 195005 1 34667 195006 1
    34694 195007 1 17879 195008 1 34785 195009 1 34817 195010 1 17913 195011 1 34912 195012 1
    34915 195013 1 161383 195014 1 35031 195015 1 35038 195016 1 17973 195017 1 35066 195018 1
    13499 195019 1 161966 195020 1 162150 195021 1 18110 195022 1 18119 195023 1 35488 195024 1
    35565 195025 1 35722 195026 1 35925 195027 1 162984 195028 1 36011 195029 1 36033 195030 1
    36123 195031 1 36215 195032 1 163631 195033 1 133124 195034 1 36299 195035 1 36284 195036 1
    36336 195037 1 133342 195038 1 36564 195039 1 36664 195040 1 165330 195041 1 165357 195042 1
    37012 195043 1 37105 195044 1 37137 195045 1 165678 195046 1 37147 195047 1 37432 195048 1
    37591 195049 1 37592 195050 1 37500 195051 1 37881 195052 1 37909 195053 1 166906 195054 1
    38283 195055 1 18837 195056 1 38327 195057 1 167287 195058 1 18918 195059 1 38595 195060 1
    23986 195061 1 38691 195062 1 168261 195063 1 168474 195064 1 19054 195065 1 19062 195066 1
    38880 195067 1 168970 195068 1 19122 195069 1 169110 195070 1 38923 195071 1 38923 195072 1
    38953 195073 1 169398 195074 1 39138 195075 1 19251 195076 1 39209 195077 1 39335 195078 1
    39362 195079 1 39422 195080 1 19406 195081 1 170800 195082 1 39698 195083 1 40000 195084 1
    40189 195085 1 19662 195086 1 19693 195087 1 40295 195088 1 172238 195089 1 19704 195090 1
    172293 195091 1 172558 195092 1 172689 195093 1 40635 195094 1 19798 195095 1 40697 195096 1
    40702 195097 1 40709 195098 1 40719 195099 1 40726 195100 1 40763 195101 1 173568")).toArray

/-! ## Taking apart -/

/-- The parts of a Hangul syllable. -/
def hangulParts? (n : Nat) : Option (List Nat) :=
  if 0xAC00 ≤ n ∧ n < 0xAC00 + 11172 then
    let i := n - 0xAC00
    let tail := i % 28
    some ([0x1100 + i / 588, 0x1161 + i % 588 / 28] ++ if tail = 0 then [] else [0x11A7 + tail])
  else none

/-- A code point fully taken apart.  A composed character nests at most four deep. -/
def partsOf : (depth : Nat) → Nat → List Nat
  | 0, n => [n]
  | depth + 1, n =>
    if n < 0xC0 then [n]
    else match hangulParts? n with
      | some parts => parts
      | none =>
        match compositions.find? (·.1 == n) with
        | some (_, first, second) => partsOf depth first ++ [second]
        | none =>
          match decompositions.find? (·.1 == n) with
          | some (_, parts) => parts
          | none => [n]

/-- Puts a mark before the marks of higher class that end the (reversed) text. -/
def insertMark (n : Nat) : List Nat → List Nat
  | [] => [n]
  | m :: before =>
    if combiningClass n ≠ 0 ∧ combiningClass n < combiningClass m then m :: insertMark n before
    else n :: m :: before

/-- The code points taken apart, with the marks on each base in the order of their classes. -/
def decompose (t : List Nat) : List Nat :=
  ((t.flatMap (partsOf 4)).foldl (fun done n => insertMark n done) []).reverse

/-! ## Composing -/

/-- The composed form of two neighbours. -/
def composed? (a b : Nat) : Option Nat :=
  if 0x1100 ≤ a ∧ a < 0x1113 ∧ 0x1161 ≤ b ∧ b < 0x1176 then
    some (0xAC00 + ((a - 0x1100) * 21 + (b - 0x1161)) * 28)
  else if 0xAC00 ≤ a ∧ a < 0xAC00 + 11172 ∧ (a - 0xAC00) % 28 = 0 ∧ 0x11A8 ≤ b ∧ b < 0x11C3 then
    some (a + (b - 0x11A7))
  else (compositions.find? fun (_, first, second) => first == a && second == b).map (·.1)

/-- Composition so far: the (reversed) finished text, the last base, and the (reversed) marks
that stay apart from it. -/
structure Composing where
  done : List Nat
  base : Option Nat
  marks : List Nat

/-- Takes the next code point: it joins the base if no mark between them blocks it. -/
def Composing.push (s : Composing) (n : Nat) : Composing :=
  let k := combiningClass n
  match s.base with
  | none => if k = 0 then ⟨s.done, some n, []⟩ else ⟨n :: s.done, none, []⟩
  | some base =>
    let blocked := match s.marks with
      | [] => false
      | m :: _ => k ≤ combiningClass m
    match if blocked then none else composed? base n with
    | some joined => ⟨s.done, some joined, s.marks⟩
    | none =>
      if k = 0 then ⟨s.marks ++ base :: s.done, some n, []⟩
      else ⟨s.done, some base, n :: s.marks⟩

/-- Neighbours put together wherever there is a composed form. -/
def compose (t : List Nat) : List Nat :=
  let s := t.foldl Composing.push ⟨[], none, []⟩
  (s.marks ++ s.base.toList ++ s.done).reverse

def normalize (t : List Char) : List Char :=
  if t.all (·.val < 0x300) then t
  else (compose (decompose (t.map Char.toNat))).map Char.ofNat

end PlainLink.Unicode

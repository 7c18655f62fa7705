import CallBook.Text.CodeTable

/-!
# Single-byte encodings

In these encodings every byte is a character: a byte below 128 the ASCII character, another what
the table of the encoding says. An encoding goes by several labels. A table has rows
`first last 1 target` for bytes whose characters follow one another; bytes in no row stand for no
character.
-/

namespace CallBook.Http

/-- An encoding with its labels and the table of its upper half. -/
structure CodePage where
  labels : List String
  table : List String

/-- The encodings with a table. -/
@[irreducible] def codePages : List CodePage :=
  [⟨["866", "cp866", "csibm866", "ibm866"],
    ["80 af 1 410;b0 b2 1 2591;b3 b3 1 2502;b4 b4 1 2524;b5 b6 1 2561;b7 b7 1 2556;b8 b8 1 2555",
     "b9 b9 1 2563;ba ba 1 2551;bb bb 1 2557;bc bc 1 255d;bd bd 1 255c;be be 1 255b",
     "bf bf 1 2510;c0 c0 1 2514;c1 c1 1 2534;c2 c2 1 252c;c3 c3 1 251c;c4 c4 1 2500",
     "c5 c5 1 253c;c6 c7 1 255e;c8 c8 1 255a;c9 c9 1 2554;ca ca 1 2569;cb cb 1 2566",
     "cc cc 1 2560;cd cd 1 2550;ce ce 1 256c;cf d0 1 2567;d1 d2 1 2564;d3 d3 1 2559",
     "d4 d4 1 2558;d5 d6 1 2552;d7 d7 1 256b;d8 d8 1 256a;d9 d9 1 2518;da da 1 250c",
     "db db 1 2588;dc dc 1 2584;dd dd 1 258c;de de 1 2590;df df 1 2580;e0 ef 1 440;f0 f0 1 401",
     "f1 f1 1 451;f2 f2 1 404;f3 f3 1 454;f4 f4 1 407;f5 f5 1 457;f6 f6 1 40e;f7 f7 1 45e",
     "f8 f8 1 b0;f9 f9 1 2219;fa fa 1 b7;fb fb 1 221a;fc fc 1 2116;fd fd 1 a4;fe fe 1 25a0",
     "ff ff 1 a0"]⟩,
   ⟨["csisolatin2", "iso-8859-2", "iso-ir-101", "iso8859-2", "iso88592", "iso_8859-2",
     "iso_8859-2:1987", "l2", "latin2"],
    ["80 a0 1 80;a1 a1 1 104;a2 a2 1 2d8;a3 a3 1 141;a4 a4 1 a4;a5 a5 1 13d;a6 a6 1 15a",
     "a7 a8 1 a7;a9 a9 1 160;aa aa 1 15e;ab ab 1 164;ac ac 1 179;ad ad 1 ad;ae ae 1 17d",
     "af af 1 17b;b0 b0 1 b0;b1 b1 1 105;b2 b2 1 2db;b3 b3 1 142;b4 b4 1 b4;b5 b5 1 13e",
     "b6 b6 1 15b;b7 b7 1 2c7;b8 b8 1 b8;b9 b9 1 161;ba ba 1 15f;bb bb 1 165;bc bc 1 17a",
     "bd bd 1 2dd;be be 1 17e;bf bf 1 17c;c0 c0 1 154;c1 c2 1 c1;c3 c3 1 102;c4 c4 1 c4",
     "c5 c5 1 139;c6 c6 1 106;c7 c7 1 c7;c8 c8 1 10c;c9 c9 1 c9;ca ca 1 118;cb cb 1 cb",
     "cc cc 1 11a;cd ce 1 cd;cf cf 1 10e;d0 d0 1 110;d1 d1 1 143;d2 d2 1 147;d3 d4 1 d3",
     "d5 d5 1 150;d6 d7 1 d6;d8 d8 1 158;d9 d9 1 16e;da da 1 da;db db 1 170;dc dd 1 dc",
     "de de 1 162;df df 1 df;e0 e0 1 155;e1 e2 1 e1;e3 e3 1 103;e4 e4 1 e4;e5 e5 1 13a",
     "e6 e6 1 107;e7 e7 1 e7;e8 e8 1 10d;e9 e9 1 e9;ea ea 1 119;eb eb 1 eb;ec ec 1 11b",
     "ed ee 1 ed;ef ef 1 10f;f0 f0 1 111;f1 f1 1 144;f2 f2 1 148;f3 f4 1 f3;f5 f5 1 151",
     "f6 f7 1 f6;f8 f8 1 159;f9 f9 1 16f;fa fa 1 fa;fb fb 1 171;fc fd 1 fc;fe fe 1 163",
     "ff ff 1 2d9"]⟩,
   ⟨["csisolatin3", "iso-8859-3", "iso-ir-109", "iso8859-3", "iso88593", "iso_8859-3",
     "iso_8859-3:1988", "l3", "latin3"],
    ["80 a0 1 80;a1 a1 1 126;a2 a2 1 2d8;a3 a4 1 a3;a6 a6 1 124;a7 a8 1 a7;a9 a9 1 130",
     "aa aa 1 15e;ab ab 1 11e;ac ac 1 134;ad ad 1 ad;af af 1 17b;b0 b0 1 b0;b1 b1 1 127",
     "b2 b5 1 b2;b6 b6 1 125;b7 b8 1 b7;b9 b9 1 131;ba ba 1 15f;bb bb 1 11f;bc bc 1 135",
     "bd bd 1 bd;bf bf 1 17c;c0 c2 1 c0;c4 c4 1 c4;c5 c5 1 10a;c6 c6 1 108;c7 cf 1 c7",
     "d1 d4 1 d1;d5 d5 1 120;d6 d7 1 d6;d8 d8 1 11c;d9 dc 1 d9;dd dd 1 16c;de de 1 15c",
     "df e2 1 df;e4 e4 1 e4;e5 e5 1 10b;e6 e6 1 109;e7 ef 1 e7;f1 f4 1 f1;f5 f5 1 121",
     "f6 f7 1 f6;f8 f8 1 11d;f9 fc 1 f9;fd fd 1 16d;fe fe 1 15d;ff ff 1 2d9"]⟩,
   ⟨["csisolatin4", "iso-8859-4", "iso-ir-110", "iso8859-4", "iso88594", "iso_8859-4",
     "iso_8859-4:1988", "l4", "latin4"],
    ["80 a0 1 80;a1 a1 1 104;a2 a2 1 138;a3 a3 1 156;a4 a4 1 a4;a5 a5 1 128;a6 a6 1 13b",
     "a7 a8 1 a7;a9 a9 1 160;aa aa 1 112;ab ab 1 122;ac ac 1 166;ad ad 1 ad;ae ae 1 17d",
     "af b0 1 af;b1 b1 1 105;b2 b2 1 2db;b3 b3 1 157;b4 b4 1 b4;b5 b5 1 129;b6 b6 1 13c",
     "b7 b7 1 2c7;b8 b8 1 b8;b9 b9 1 161;ba ba 1 113;bb bb 1 123;bc bc 1 167;bd bd 1 14a",
     "be be 1 17e;bf bf 1 14b;c0 c0 1 100;c1 c6 1 c1;c7 c7 1 12e;c8 c8 1 10c;c9 c9 1 c9",
     "ca ca 1 118;cb cb 1 cb;cc cc 1 116;cd ce 1 cd;cf cf 1 12a;d0 d0 1 110;d1 d1 1 145",
     "d2 d2 1 14c;d3 d3 1 136;d4 d8 1 d4;d9 d9 1 172;da dc 1 da;dd dd 1 168;de de 1 16a",
     "df df 1 df;e0 e0 1 101;e1 e6 1 e1;e7 e7 1 12f;e8 e8 1 10d;e9 e9 1 e9;ea ea 1 119",
     "eb eb 1 eb;ec ec 1 117;ed ee 1 ed;ef ef 1 12b;f0 f0 1 111;f1 f1 1 146;f2 f2 1 14d",
     "f3 f3 1 137;f4 f8 1 f4;f9 f9 1 173;fa fc 1 fa;fd fd 1 169;fe fe 1 16b;ff ff 1 2d9"]⟩,
   ⟨["csisolatincyrillic", "cyrillic", "iso-8859-5", "iso-ir-144", "iso8859-5", "iso88595",
     "iso_8859-5", "iso_8859-5:1988"],
    ["80 a0 1 80;a1 ac 1 401;ad ad 1 ad;ae ef 1 40e;f0 f0 1 2116;f1 fc 1 451;fd fd 1 a7",
     "fe ff 1 45e"]⟩,
   ⟨["arabic", "asmo-708", "csiso88596e", "csiso88596i", "csisolatinarabic", "ecma-114",
     "iso-8859-6", "iso-8859-6-e", "iso-8859-6-i", "iso-ir-127", "iso8859-6", "iso88596",
     "iso_8859-6", "iso_8859-6:1987"],
    ["80 a0 1 80;a4 a4 1 a4;ac ac 1 60c;ad ad 1 ad;bb bb 1 61b;bf bf 1 61f;c1 da 1 621",
     "e0 f2 1 640"]⟩,
   ⟨["csisolatingreek", "ecma-118", "elot_928", "greek", "greek8", "iso-8859-7",
     "iso-ir-126", "iso8859-7", "iso88597", "iso_8859-7", "iso_8859-7:1987", "sun_eu_greek"],
    ["80 a0 1 80;a1 a2 1 2018;a3 a3 1 a3;a4 a4 1 20ac;a5 a5 1 20af;a6 a9 1 a6;aa aa 1 37a",
     "ab ad 1 ab;af af 1 2015;b0 b3 1 b0;b4 b6 1 384;b7 b7 1 b7;b8 ba 1 388;bb bb 1 bb",
     "bc bc 1 38c;bd bd 1 bd;be d1 1 38e;d3 fe 1 3a3"]⟩,
   ⟨["csiso88598e", "csisolatinhebrew", "hebrew", "iso-8859-8", "iso-8859-8-e",
     "iso-ir-138", "iso8859-8", "iso88598", "iso_8859-8", "iso_8859-8:1988", "visual",
     "csiso88598i", "iso-8859-8-i", "logical"],
    ["80 a0 1 80;a2 a9 1 a2;aa aa 1 d7;ab b9 1 ab;ba ba 1 f7;bb be 1 bb;df df 1 2017",
     "e0 fa 1 5d0;fd fe 1 200e"]⟩,
   ⟨["csisolatin6", "iso-8859-10", "iso-ir-157", "iso8859-10", "iso885910", "l6", "latin6"],
    ["80 a0 1 80;a1 a1 1 104;a2 a2 1 112;a3 a3 1 122;a4 a4 1 12a;a5 a5 1 128;a6 a6 1 136",
     "a7 a7 1 a7;a8 a8 1 13b;a9 a9 1 110;aa aa 1 160;ab ab 1 166;ac ac 1 17d;ad ad 1 ad",
     "ae ae 1 16a;af af 1 14a;b0 b0 1 b0;b1 b1 1 105;b2 b2 1 113;b3 b3 1 123;b4 b4 1 12b",
     "b5 b5 1 129;b6 b6 1 137;b7 b7 1 b7;b8 b8 1 13c;b9 b9 1 111;ba ba 1 161;bb bb 1 167",
     "bc bc 1 17e;bd bd 1 2015;be be 1 16b;bf bf 1 14b;c0 c0 1 100;c1 c6 1 c1;c7 c7 1 12e",
     "c8 c8 1 10c;c9 c9 1 c9;ca ca 1 118;cb cb 1 cb;cc cc 1 116;cd d0 1 cd;d1 d1 1 145",
     "d2 d2 1 14c;d3 d6 1 d3;d7 d7 1 168;d8 d8 1 d8;d9 d9 1 172;da df 1 da;e0 e0 1 101",
     "e1 e6 1 e1;e7 e7 1 12f;e8 e8 1 10d;e9 e9 1 e9;ea ea 1 119;eb eb 1 eb;ec ec 1 117",
     "ed f0 1 ed;f1 f1 1 146;f2 f2 1 14d;f3 f6 1 f3;f7 f7 1 169;f8 f8 1 f8;f9 f9 1 173",
     "fa fe 1 fa;ff ff 1 138"]⟩,
   ⟨["iso-8859-13", "iso8859-13", "iso885913"],
    ["80 a0 1 80;a1 a1 1 201d;a2 a4 1 a2;a5 a5 1 201e;a6 a7 1 a6;a8 a8 1 d8;a9 a9 1 a9",
     "aa aa 1 156;ab ae 1 ab;af af 1 c6;b0 b3 1 b0;b4 b4 1 201c;b5 b7 1 b5;b8 b8 1 f8",
     "b9 b9 1 b9;ba ba 1 157;bb be 1 bb;bf bf 1 e6;c0 c0 1 104;c1 c1 1 12e;c2 c2 1 100",
     "c3 c3 1 106;c4 c5 1 c4;c6 c6 1 118;c7 c7 1 112;c8 c8 1 10c;c9 c9 1 c9;ca ca 1 179",
     "cb cb 1 116;cc cc 1 122;cd cd 1 136;ce ce 1 12a;cf cf 1 13b;d0 d0 1 160;d1 d1 1 143",
     "d2 d2 1 145;d3 d3 1 d3;d4 d4 1 14c;d5 d7 1 d5;d8 d8 1 172;d9 d9 1 141;da da 1 15a",
     "db db 1 16a;dc dc 1 dc;dd dd 1 17b;de de 1 17d;df df 1 df;e0 e0 1 105;e1 e1 1 12f",
     "e2 e2 1 101;e3 e3 1 107;e4 e5 1 e4;e6 e6 1 119;e7 e7 1 113;e8 e8 1 10d;e9 e9 1 e9",
     "ea ea 1 17a;eb eb 1 117;ec ec 1 123;ed ed 1 137;ee ee 1 12b;ef ef 1 13c;f0 f0 1 161",
     "f1 f1 1 144;f2 f2 1 146;f3 f3 1 f3;f4 f4 1 14d;f5 f7 1 f5;f8 f8 1 173;f9 f9 1 142",
     "fa fa 1 15b;fb fb 1 16b;fc fc 1 fc;fd fd 1 17c;fe fe 1 17e;ff ff 1 2019"]⟩,
   ⟨["iso-8859-14", "iso8859-14", "iso885914"],
    ["80 a0 1 80;a1 a2 1 1e02;a3 a3 1 a3;a4 a5 1 10a;a6 a6 1 1e0a;a7 a7 1 a7;a8 a8 1 1e80",
     "a9 a9 1 a9;aa aa 1 1e82;ab ab 1 1e0b;ac ac 1 1ef2;ad ae 1 ad;af af 1 178;b0 b1 1 1e1e",
     "b2 b3 1 120;b4 b5 1 1e40;b6 b6 1 b6;b7 b7 1 1e56;b8 b8 1 1e81;b9 b9 1 1e57;ba ba 1 1e83",
     "bb bb 1 1e60;bc bc 1 1ef3;bd be 1 1e84;bf bf 1 1e61;c0 cf 1 c0;d0 d0 1 174;d1 d6 1 d1",
     "d7 d7 1 1e6a;d8 dd 1 d8;de de 1 176;df ef 1 df;f0 f0 1 175;f1 f6 1 f1;f7 f7 1 1e6b",
     "f8 fd 1 f8;fe fe 1 177;ff ff 1 ff"]⟩,
   ⟨["csisolatin9", "iso-8859-15", "iso8859-15", "iso885915", "iso_8859-15", "l9"],
    ["80 a3 1 80;a4 a4 1 20ac;a5 a5 1 a5;a6 a6 1 160;a7 a7 1 a7;a8 a8 1 161;a9 b3 1 a9",
     "b4 b4 1 17d;b5 b7 1 b5;b8 b8 1 17e;b9 bb 1 b9;bc bd 1 152;be be 1 178;bf ff 1 bf"]⟩,
   ⟨["iso-8859-16"],
    ["80 a0 1 80;a1 a2 1 104;a3 a3 1 141;a4 a4 1 20ac;a5 a5 1 201e;a6 a6 1 160;a7 a7 1 a7",
     "a8 a8 1 161;a9 a9 1 a9;aa aa 1 218;ab ab 1 ab;ac ac 1 179;ad ad 1 ad;ae af 1 17a",
     "b0 b1 1 b0;b2 b2 1 10c;b3 b3 1 142;b4 b4 1 17d;b5 b5 1 201d;b6 b7 1 b6;b8 b8 1 17e",
     "b9 b9 1 10d;ba ba 1 219;bb bb 1 bb;bc bd 1 152;be be 1 178;bf bf 1 17c;c0 c2 1 c0",
     "c3 c3 1 102;c4 c4 1 c4;c5 c5 1 106;c6 cf 1 c6;d0 d0 1 110;d1 d1 1 143;d2 d4 1 d2",
     "d5 d5 1 150;d6 d6 1 d6;d7 d7 1 15a;d8 d8 1 170;d9 dc 1 d9;dd dd 1 118;de de 1 21a",
     "df e2 1 df;e3 e3 1 103;e4 e4 1 e4;e5 e5 1 107;e6 ef 1 e6;f0 f0 1 111;f1 f1 1 144",
     "f2 f4 1 f2;f5 f5 1 151;f6 f6 1 f6;f7 f7 1 15b;f8 f8 1 171;f9 fc 1 f9;fd fd 1 119",
     "fe fe 1 21b;ff ff 1 ff"]⟩,
   ⟨["cskoi8r", "koi", "koi8", "koi8-r", "koi8_r"],
    ["80 80 1 2500;81 81 1 2502;82 82 1 250c;83 83 1 2510;84 84 1 2514;85 85 1 2518",
     "86 86 1 251c;87 87 1 2524;88 88 1 252c;89 89 1 2534;8a 8a 1 253c;8b 8b 1 2580",
     "8c 8c 1 2584;8d 8d 1 2588;8e 8e 1 258c;8f 92 1 2590;93 93 1 2320;94 94 1 25a0",
     "95 96 1 2219;97 97 1 2248;98 99 1 2264;9a 9a 1 a0;9b 9b 1 2321;9c 9c 1 b0;9d 9d 1 b2",
     "9e 9e 1 b7;9f 9f 1 f7;a0 a2 1 2550;a3 a3 1 451;a4 b2 1 2553;b3 b3 1 401;b4 be 1 2562",
     "bf bf 1 a9;c0 c0 1 44e;c1 c2 1 430;c3 c3 1 446;c4 c5 1 434;c6 c6 1 444;c7 c7 1 433",
     "c8 c8 1 445;c9 d0 1 438;d1 d1 1 44f;d2 d5 1 440;d6 d6 1 436;d7 d7 1 432;d8 d8 1 44c",
     "d9 d9 1 44b;da da 1 437;db db 1 448;dc dc 1 44d;dd dd 1 449;de de 1 447;df df 1 44a",
     "e0 e0 1 42e;e1 e2 1 410;e3 e3 1 426;e4 e5 1 414;e6 e6 1 424;e7 e7 1 413;e8 e8 1 425",
     "e9 f0 1 418;f1 f1 1 42f;f2 f5 1 420;f6 f6 1 416;f7 f7 1 412;f8 f8 1 42c;f9 f9 1 42b",
     "fa fa 1 417;fb fb 1 428;fc fc 1 42d;fd fd 1 429;fe fe 1 427;ff ff 1 42a"]⟩,
   ⟨["koi8-ru", "koi8-u"],
    ["80 80 1 2500;81 81 1 2502;82 82 1 250c;83 83 1 2510;84 84 1 2514;85 85 1 2518",
     "86 86 1 251c;87 87 1 2524;88 88 1 252c;89 89 1 2534;8a 8a 1 253c;8b 8b 1 2580",
     "8c 8c 1 2584;8d 8d 1 2588;8e 8e 1 258c;8f 92 1 2590;93 93 1 2320;94 94 1 25a0",
     "95 96 1 2219;97 97 1 2248;98 99 1 2264;9a 9a 1 a0;9b 9b 1 2321;9c 9c 1 b0;9d 9d 1 b2",
     "9e 9e 1 b7;9f 9f 1 f7;a0 a2 1 2550;a3 a3 1 451;a4 a4 1 454;a5 a5 1 2554;a6 a7 1 456",
     "a8 ac 1 2557;ad ad 1 491;ae ae 1 45e;af b2 1 255e;b3 b3 1 401;b4 b4 1 404;b5 b5 1 2563",
     "b6 b7 1 406;b8 bc 1 2566;bd bd 1 490;be be 1 40e;bf bf 1 a9;c0 c0 1 44e;c1 c2 1 430",
     "c3 c3 1 446;c4 c5 1 434;c6 c6 1 444;c7 c7 1 433;c8 c8 1 445;c9 d0 1 438;d1 d1 1 44f",
     "d2 d5 1 440;d6 d6 1 436;d7 d7 1 432;d8 d8 1 44c;d9 d9 1 44b;da da 1 437;db db 1 448",
     "dc dc 1 44d;dd dd 1 449;de de 1 447;df df 1 44a;e0 e0 1 42e;e1 e2 1 410;e3 e3 1 426",
     "e4 e5 1 414;e6 e6 1 424;e7 e7 1 413;e8 e8 1 425;e9 f0 1 418;f1 f1 1 42f;f2 f5 1 420",
     "f6 f6 1 416;f7 f7 1 412;f8 f8 1 42c;f9 f9 1 42b;fa fa 1 417;fb fb 1 428;fc fc 1 42d",
     "fd fd 1 429;fe fe 1 427;ff ff 1 42a"]⟩,
   ⟨["csmacintosh", "mac", "macintosh", "x-mac-roman"],
    ["80 81 1 c4;82 82 1 c7;83 83 1 c9;84 84 1 d1;85 85 1 d6;86 86 1 dc;87 87 1 e1;88 88 1 e0",
     "89 89 1 e2;8a 8a 1 e4;8b 8b 1 e3;8c 8c 1 e5;8d 8d 1 e7;8e 8e 1 e9;8f 8f 1 e8;90 91 1 ea",
     "92 92 1 ed;93 93 1 ec;94 95 1 ee;96 96 1 f1;97 97 1 f3;98 98 1 f2;99 99 1 f4;9a 9a 1 f6",
     "9b 9b 1 f5;9c 9c 1 fa;9d 9d 1 f9;9e 9f 1 fb;a0 a0 1 2020;a1 a1 1 b0;a2 a3 1 a2;a4 a4 1 a7",
     "a5 a5 1 2022;a6 a6 1 b6;a7 a7 1 df;a8 a8 1 ae;a9 a9 1 a9;aa aa 1 2122;ab ab 1 b4",
     "ac ac 1 a8;ad ad 1 2260;ae ae 1 c6;af af 1 d8;b0 b0 1 221e;b1 b1 1 b1;b2 b3 1 2264",
     "b4 b4 1 a5;b5 b5 1 b5;b6 b6 1 2202;b7 b7 1 2211;b8 b8 1 220f;b9 b9 1 3c0;ba ba 1 222b",
     "bb bb 1 aa;bc bc 1 ba;bd bd 1 3a9;be be 1 e6;bf bf 1 f8;c0 c0 1 bf;c1 c1 1 a1;c2 c2 1 ac",
     "c3 c3 1 221a;c4 c4 1 192;c5 c5 1 2248;c6 c6 1 2206;c7 c7 1 ab;c8 c8 1 bb;c9 c9 1 2026",
     "ca ca 1 a0;cb cb 1 c0;cc cc 1 c3;cd cd 1 d5;ce cf 1 152;d0 d1 1 2013;d2 d3 1 201c",
     "d4 d5 1 2018;d6 d6 1 f7;d7 d7 1 25ca;d8 d8 1 ff;d9 d9 1 178;da da 1 2044;db db 1 20ac",
     "dc dd 1 2039;de df 1 fb01;e0 e0 1 2021;e1 e1 1 b7;e2 e2 1 201a;e3 e3 1 201e;e4 e4 1 2030",
     "e5 e5 1 c2;e6 e6 1 ca;e7 e7 1 c1;e8 e8 1 cb;e9 e9 1 c8;ea ec 1 cd;ed ed 1 cc;ee ef 1 d3",
     "f0 f0 1 f8ff;f1 f1 1 d2;f2 f3 1 da;f4 f4 1 d9;f5 f5 1 131;f6 f6 1 2c6;f7 f7 1 2dc",
     "f8 f8 1 af;f9 fb 1 2d8;fc fc 1 b8;fd fd 1 2dd;fe fe 1 2db;ff ff 1 2c7"]⟩,
   ⟨["dos-874", "iso-8859-11", "iso8859-11", "iso885911", "tis-620", "windows-874"],
    ["80 80 1 20ac;81 84 1 81;85 85 1 2026;86 90 1 86;91 92 1 2018;93 94 1 201c;95 95 1 2022",
     "96 97 1 2013;98 a0 1 98;a1 da 1 e01;df fb 1 e3f"]⟩,
   ⟨["cp1250", "windows-1250", "x-cp1250"],
    ["80 80 1 20ac;81 81 1 81;82 82 1 201a;83 83 1 83;84 84 1 201e;85 85 1 2026;86 87 1 2020",
     "88 88 1 88;89 89 1 2030;8a 8a 1 160;8b 8b 1 2039;8c 8c 1 15a;8d 8d 1 164;8e 8e 1 17d",
     "8f 8f 1 179;90 90 1 90;91 92 1 2018;93 94 1 201c;95 95 1 2022;96 97 1 2013;98 98 1 98",
     "99 99 1 2122;9a 9a 1 161;9b 9b 1 203a;9c 9c 1 15b;9d 9d 1 165;9e 9e 1 17e;9f 9f 1 17a",
     "a0 a0 1 a0;a1 a1 1 2c7;a2 a2 1 2d8;a3 a3 1 141;a4 a4 1 a4;a5 a5 1 104;a6 a9 1 a6",
     "aa aa 1 15e;ab ae 1 ab;af af 1 17b;b0 b1 1 b0;b2 b2 1 2db;b3 b3 1 142;b4 b8 1 b4",
     "b9 b9 1 105;ba ba 1 15f;bb bb 1 bb;bc bc 1 13d;bd bd 1 2dd;be be 1 13e;bf bf 1 17c",
     "c0 c0 1 154;c1 c2 1 c1;c3 c3 1 102;c4 c4 1 c4;c5 c5 1 139;c6 c6 1 106;c7 c7 1 c7",
     "c8 c8 1 10c;c9 c9 1 c9;ca ca 1 118;cb cb 1 cb;cc cc 1 11a;cd ce 1 cd;cf cf 1 10e",
     "d0 d0 1 110;d1 d1 1 143;d2 d2 1 147;d3 d4 1 d3;d5 d5 1 150;d6 d7 1 d6;d8 d8 1 158",
     "d9 d9 1 16e;da da 1 da;db db 1 170;dc dd 1 dc;de de 1 162;df df 1 df;e0 e0 1 155",
     "e1 e2 1 e1;e3 e3 1 103;e4 e4 1 e4;e5 e5 1 13a;e6 e6 1 107;e7 e7 1 e7;e8 e8 1 10d",
     "e9 e9 1 e9;ea ea 1 119;eb eb 1 eb;ec ec 1 11b;ed ee 1 ed;ef ef 1 10f;f0 f0 1 111",
     "f1 f1 1 144;f2 f2 1 148;f3 f4 1 f3;f5 f5 1 151;f6 f7 1 f6;f8 f8 1 159;f9 f9 1 16f",
     "fa fa 1 fa;fb fb 1 171;fc fd 1 fc;fe fe 1 163;ff ff 1 2d9"]⟩,
   ⟨["cp1251", "windows-1251", "x-cp1251"],
    ["80 81 1 402;82 82 1 201a;83 83 1 453;84 84 1 201e;85 85 1 2026;86 87 1 2020;88 88 1 20ac",
     "89 89 1 2030;8a 8a 1 409;8b 8b 1 2039;8c 8c 1 40a;8d 8d 1 40c;8e 8e 1 40b;8f 8f 1 40f",
     "90 90 1 452;91 92 1 2018;93 94 1 201c;95 95 1 2022;96 97 1 2013;98 98 1 98;99 99 1 2122",
     "9a 9a 1 459;9b 9b 1 203a;9c 9c 1 45a;9d 9d 1 45c;9e 9e 1 45b;9f 9f 1 45f;a0 a0 1 a0",
     "a1 a1 1 40e;a2 a2 1 45e;a3 a3 1 408;a4 a4 1 a4;a5 a5 1 490;a6 a7 1 a6;a8 a8 1 401",
     "a9 a9 1 a9;aa aa 1 404;ab ae 1 ab;af af 1 407;b0 b1 1 b0;b2 b2 1 406;b3 b3 1 456",
     "b4 b4 1 491;b5 b7 1 b5;b8 b8 1 451;b9 b9 1 2116;ba ba 1 454;bb bb 1 bb;bc bc 1 458",
     "bd bd 1 405;be be 1 455;bf bf 1 457;c0 ff 1 410"]⟩,
   ⟨["ansi_x3.4-1968", "ascii", "cp1252", "cp819", "csisolatin1", "ibm819", "iso-8859-1",
     "iso-ir-100", "iso8859-1", "iso88591", "iso_8859-1", "iso_8859-1:1987", "l1", "latin1",
     "us-ascii", "windows-1252", "x-cp1252"],
    ["80 80 1 20ac;81 81 1 81;82 82 1 201a;83 83 1 192;84 84 1 201e;85 85 1 2026;86 87 1 2020",
     "88 88 1 2c6;89 89 1 2030;8a 8a 1 160;8b 8b 1 2039;8c 8c 1 152;8d 8d 1 8d;8e 8e 1 17d",
     "8f 90 1 8f;91 92 1 2018;93 94 1 201c;95 95 1 2022;96 97 1 2013;98 98 1 2dc;99 99 1 2122",
     "9a 9a 1 161;9b 9b 1 203a;9c 9c 1 153;9d 9d 1 9d;9e 9e 1 17e;9f 9f 1 178;a0 ff 1 a0"]⟩,
   ⟨["cp1253", "windows-1253", "x-cp1253"],
    ["80 80 1 20ac;81 81 1 81;82 82 1 201a;83 83 1 192;84 84 1 201e;85 85 1 2026;86 87 1 2020",
     "88 88 1 88;89 89 1 2030;8a 8a 1 8a;8b 8b 1 2039;8c 90 1 8c;91 92 1 2018;93 94 1 201c",
     "95 95 1 2022;96 97 1 2013;98 98 1 98;99 99 1 2122;9a 9a 1 9a;9b 9b 1 203a;9c a0 1 9c",
     "a1 a2 1 385;a3 a9 1 a3;ab ae 1 ab;af af 1 2015;b0 b3 1 b0;b4 b4 1 384;b5 b7 1 b5",
     "b8 ba 1 388;bb bb 1 bb;bc bc 1 38c;bd bd 1 bd;be d1 1 38e;d3 fe 1 3a3"]⟩,
   ⟨["cp1254", "csisolatin5", "iso-8859-9", "iso-ir-148", "iso8859-9", "iso88599",
     "iso_8859-9", "iso_8859-9:1989", "l5", "latin5", "windows-1254", "x-cp1254"],
    ["80 80 1 20ac;81 81 1 81;82 82 1 201a;83 83 1 192;84 84 1 201e;85 85 1 2026;86 87 1 2020",
     "88 88 1 2c6;89 89 1 2030;8a 8a 1 160;8b 8b 1 2039;8c 8c 1 152;8d 90 1 8d;91 92 1 2018",
     "93 94 1 201c;95 95 1 2022;96 97 1 2013;98 98 1 2dc;99 99 1 2122;9a 9a 1 161;9b 9b 1 203a",
     "9c 9c 1 153;9d 9e 1 9d;9f 9f 1 178;a0 cf 1 a0;d0 d0 1 11e;d1 dc 1 d1;dd dd 1 130",
     "de de 1 15e;df ef 1 df;f0 f0 1 11f;f1 fc 1 f1;fd fd 1 131;fe fe 1 15f;ff ff 1 ff"]⟩,
   ⟨["cp1255", "windows-1255", "x-cp1255"],
    ["80 80 1 20ac;81 81 1 81;82 82 1 201a;83 83 1 192;84 84 1 201e;85 85 1 2026;86 87 1 2020",
     "88 88 1 2c6;89 89 1 2030;8a 8a 1 8a;8b 8b 1 2039;8c 90 1 8c;91 92 1 2018;93 94 1 201c",
     "95 95 1 2022;96 97 1 2013;98 98 1 2dc;99 99 1 2122;9a 9a 1 9a;9b 9b 1 203a;9c a3 1 9c",
     "a4 a4 1 20aa;a5 a9 1 a5;aa aa 1 d7;ab b9 1 ab;ba ba 1 f7;bb bf 1 bb;c0 c9 1 5b0",
     "cb d3 1 5bb;d4 d8 1 5f0;e0 fa 1 5d0;fd fe 1 200e"]⟩,
   ⟨["cp1256", "windows-1256", "x-cp1256"],
    ["80 80 1 20ac;81 81 1 67e;82 82 1 201a;83 83 1 192;84 84 1 201e;85 85 1 2026;86 87 1 2020",
     "88 88 1 2c6;89 89 1 2030;8a 8a 1 679;8b 8b 1 2039;8c 8c 1 152;8d 8d 1 686;8e 8e 1 698",
     "8f 8f 1 688;90 90 1 6af;91 92 1 2018;93 94 1 201c;95 95 1 2022;96 97 1 2013;98 98 1 6a9",
     "99 99 1 2122;9a 9a 1 691;9b 9b 1 203a;9c 9c 1 153;9d 9e 1 200c;9f 9f 1 6ba;a0 a0 1 a0",
     "a1 a1 1 60c;a2 a9 1 a2;aa aa 1 6be;ab b9 1 ab;ba ba 1 61b;bb be 1 bb;bf bf 1 61f",
     "c0 c0 1 6c1;c1 d6 1 621;d7 d7 1 d7;d8 db 1 637;dc df 1 640;e0 e0 1 e0;e1 e1 1 644",
     "e2 e2 1 e2;e3 e6 1 645;e7 eb 1 e7;ec ed 1 649;ee ef 1 ee;f0 f3 1 64b;f4 f4 1 f4",
     "f5 f6 1 64f;f7 f7 1 f7;f8 f8 1 651;f9 f9 1 f9;fa fa 1 652;fb fc 1 fb;fd fe 1 200e",
     "ff ff 1 6d2"]⟩,
   ⟨["cp1257", "windows-1257", "x-cp1257"],
    ["80 80 1 20ac;81 81 1 81;82 82 1 201a;83 83 1 83;84 84 1 201e;85 85 1 2026;86 87 1 2020",
     "88 88 1 88;89 89 1 2030;8a 8a 1 8a;8b 8b 1 2039;8c 8c 1 8c;8d 8d 1 a8;8e 8e 1 2c7",
     "8f 8f 1 b8;90 90 1 90;91 92 1 2018;93 94 1 201c;95 95 1 2022;96 97 1 2013;98 98 1 98",
     "99 99 1 2122;9a 9a 1 9a;9b 9b 1 203a;9c 9c 1 9c;9d 9d 1 af;9e 9e 1 2db;9f a0 1 9f",
     "a2 a4 1 a2;a6 a7 1 a6;a8 a8 1 d8;a9 a9 1 a9;aa aa 1 156;ab ae 1 ab;af af 1 c6;b0 b7 1 b0",
     "b8 b8 1 f8;b9 b9 1 b9;ba ba 1 157;bb be 1 bb;bf bf 1 e6;c0 c0 1 104;c1 c1 1 12e",
     "c2 c2 1 100;c3 c3 1 106;c4 c5 1 c4;c6 c6 1 118;c7 c7 1 112;c8 c8 1 10c;c9 c9 1 c9",
     "ca ca 1 179;cb cb 1 116;cc cc 1 122;cd cd 1 136;ce ce 1 12a;cf cf 1 13b;d0 d0 1 160",
     "d1 d1 1 143;d2 d2 1 145;d3 d3 1 d3;d4 d4 1 14c;d5 d7 1 d5;d8 d8 1 172;d9 d9 1 141",
     "da da 1 15a;db db 1 16a;dc dc 1 dc;dd dd 1 17b;de de 1 17d;df df 1 df;e0 e0 1 105",
     "e1 e1 1 12f;e2 e2 1 101;e3 e3 1 107;e4 e5 1 e4;e6 e6 1 119;e7 e7 1 113;e8 e8 1 10d",
     "e9 e9 1 e9;ea ea 1 17a;eb eb 1 117;ec ec 1 123;ed ed 1 137;ee ee 1 12b;ef ef 1 13c",
     "f0 f0 1 161;f1 f1 1 144;f2 f2 1 146;f3 f3 1 f3;f4 f4 1 14d;f5 f7 1 f5;f8 f8 1 173",
     "f9 f9 1 142;fa fa 1 15b;fb fb 1 16b;fc fc 1 fc;fd fd 1 17c;fe fe 1 17e;ff ff 1 2d9"]⟩,
   ⟨["cp1258", "windows-1258", "x-cp1258"],
    ["80 80 1 20ac;81 81 1 81;82 82 1 201a;83 83 1 192;84 84 1 201e;85 85 1 2026;86 87 1 2020",
     "88 88 1 2c6;89 89 1 2030;8a 8a 1 8a;8b 8b 1 2039;8c 8c 1 152;8d 90 1 8d;91 92 1 2018",
     "93 94 1 201c;95 95 1 2022;96 97 1 2013;98 98 1 2dc;99 99 1 2122;9a 9a 1 9a;9b 9b 1 203a",
     "9c 9c 1 153;9d 9e 1 9d;9f 9f 1 178;a0 c2 1 a0;c3 c3 1 102;c4 cb 1 c4;cc cc 1 300",
     "cd cf 1 cd;d0 d0 1 110;d1 d1 1 d1;d2 d2 1 309;d3 d4 1 d3;d5 d5 1 1a0;d6 dc 1 d6",
     "dd dd 1 1af;de de 1 303;df e2 1 df;e3 e3 1 103;e4 eb 1 e4;ec ec 1 301;ed ef 1 ed",
     "f0 f0 1 111;f1 f1 1 f1;f2 f2 1 323;f3 f4 1 f3;f5 f5 1 1a1;f6 fc 1 f6;fd fd 1 1b0",
     "fe fe 1 20ab;ff ff 1 ff"]⟩,
   ⟨["x-mac-cyrillic", "x-mac-ukrainian"],
    ["80 9f 1 410;a0 a0 1 2020;a1 a1 1 b0;a2 a2 1 490;a3 a3 1 a3;a4 a4 1 a7;a5 a5 1 2022",
     "a6 a6 1 b6;a7 a7 1 406;a8 a8 1 ae;a9 a9 1 a9;aa aa 1 2122;ab ab 1 402;ac ac 1 452",
     "ad ad 1 2260;ae ae 1 403;af af 1 453;b0 b0 1 221e;b1 b1 1 b1;b2 b3 1 2264;b4 b4 1 456",
     "b5 b5 1 b5;b6 b6 1 491;b7 b7 1 408;b8 b8 1 404;b9 b9 1 454;ba ba 1 407;bb bb 1 457",
     "bc bc 1 409;bd bd 1 459;be be 1 40a;bf bf 1 45a;c0 c0 1 458;c1 c1 1 405;c2 c2 1 ac",
     "c3 c3 1 221a;c4 c4 1 192;c5 c5 1 2248;c6 c6 1 2206;c7 c7 1 ab;c8 c8 1 bb;c9 c9 1 2026",
     "ca ca 1 a0;cb cb 1 40b;cc cc 1 45b;cd cd 1 40c;ce ce 1 45c;cf cf 1 455;d0 d1 1 2013",
     "d2 d3 1 201c;d4 d5 1 2018;d6 d6 1 f7;d7 d7 1 201e;d8 d8 1 40e;d9 d9 1 45e;da da 1 40f",
     "db db 1 45f;dc dc 1 2116;dd dd 1 401;de de 1 451;df df 1 44f;e0 fe 1 430;ff ff 1 20ac"]⟩]

/-- The character of a byte. -/
def byteChar (rows : List (List Nat)) (b : UInt8) : Char :=
  if b.toNat < 128 then Char.ofNat b.toNat
  else ((Text.CodeTable.shifted? b.toNat rows).map Char.ofNat).getD '\uFFFD'

/-- The text of bytes in an encoding. -/
def CodePage.decode (page : CodePage) (bytes : List UInt8) : List Char :=
  bytes.map (byteChar (Text.CodeTable.rows page.table))

/-- The encoding with a label in lower case. -/
def codePage? (label : String) : Option CodePage := codePages.find? fun p => p.labels.contains label

end CallBook.Http

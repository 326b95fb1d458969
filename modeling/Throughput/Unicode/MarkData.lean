/-!
# Combining marks, data

Which code points are combining marks, as ranges that reach to the start of the next one.
-/

namespace Throughput.Unicode

def markText : String := "
0:o 300:m 371:o 483:m 48B:o 591:m 5BE:o 5BF:m 5C0:o 5C1:m 5C3:o 5C4:m 5C6:o 5C7:m 5D0:o 610:m
61B:o 64B:m 660:o 670:m 671:o 6D6:m 6DE:o 6DF:m 6E5:o 6E7:m 6E9:o 6EA:m 6EE:o 711:m 712:o 730:m
74D:o 7A6:m 7B1:o 7EB:m 7F4:o 7FD:m 7FE:o 816:m 81A:o 81B:m 824:o 825:m 828:o 829:m 830:o 859:m
85E:o 897:m 8A0:o 8CA:m 904:o 93A:m 93D:o 93E:m 950:o 951:m 960:o 962:m 964:o 981:m 985:o 9BC:m
9BD:o 9BE:m 9CE:o 9D7:m 9E0:o 9E2:m 9E6:o 9FE:m A05:o A3C:m A5C:o A70:m A72:o A75:m A76:o A81:m
A85:o ABC:m ABD:o ABE:m AD0:o AE2:m AE6:o AFA:m B05:o B3C:m B3D:o B3E:m B5F:o B62:m B66:o B82:m
B83:o BBE:m BD0:o BD7:m BE6:o C00:m C05:o C3C:m C3D:o C3E:m C58:o C62:m C66:o C81:m C84:o CBC:m
CBD:o CBE:m CDC:o CE2:m CE6:o CF3:m D04:o D3B:m D3D:o D3E:m D4E:o D57:m D58:o D62:m D66:o D81:m
D85:o DCA:m DE6:o DF2:m DF4:o E31:m E32:o E34:m E3F:o E47:m E4F:o EB1:m EB2:o EB4:m EBD:o EC8:m
ED0:o F18:m F1A:o F35:m F36:o F37:m F38:o F39:m F3A:o F3E:m F40:o F71:m F85:o F86:m F88:o F8D:m
FBE:o FC6:m FC7:o 102B:m 103F:o 1056:m 105A:o 105E:m 1061:o 1062:m 1065:o 1067:m 106E:o 1071:m
1075:o 1082:m 108E:o 108F:m 1090:o 109A:m 109E:o 135D:m 1360:o 1712:m 171F:o 1732:m 1735:o 1752:m
1760:o 1772:m 1780:o 17B6:m 17D4:o 17DD:m 17E0:o 1885:m 1887:o 18A9:m 18AA:o 1920:m 1940:o 1A17:m
1A1E:o 1A55:m 1A80:o 1AB0:m 1B05:o 1B34:m 1B45:o 1B6B:m 1B74:o 1B80:m 1B83:o 1BA1:m 1BAE:o 1BE6:m
1BFC:o 1C24:m 1C3B:o 1CD0:m 1CD3:o 1CD4:m 1CE9:o 1CED:m 1CEE:o 1CF4:m 1CF5:o 1CF7:m 1CFA:o 1DC0:m
1E01:o 20D0:m 2104:o 2CEF:m 2CF3:o 2D7F:m 2D80:o 2DE0:m 2E00:o 302A:m 3030:o 3099:m 309D:o A66F:m
A673:o A674:m A67E:o A69E:m A6A0:o A6F0:m A6F2:o A802:m A803:o A806:m A807:o A80B:m A80C:o A823:m
A828:o A82C:m A830:o A880:m A882:o A8B4:m A8CE:o A8E0:m A8F2:o A8FF:m A900:o A926:m A92E:o A947:m
A95F:o A980:m A984:o A9B3:m A9C1:o A9E5:m A9E6:o AA29:m AA40:o AA43:m AA44:o AA4C:m AA50:o AA7B:m
AA7E:o AAB0:m AAB1:o AAB2:m AAB5:o AAB7:m AAB9:o AABE:m AAC0:o AAC1:m AAC2:o AAEB:m AAF0:o AAF5:m
AB01:o ABE3:m ABEB:o ABEC:m ABF0:o FB1E:m FBB2:o FE20:m FE45:o 101FD:m 10280:o 102E0:m 102E1:o
10376:m 10380:o 10A01:m 10A10:o 10A38:m 10A40:o 10AE5:m 10AEB:o 10D24:m 10D30:o 10D69:m 10D6E:o
10EAB:m 10EAD:o 10EFA:m 10F00:o 10F46:m 10F51:o 10F82:m 10F86:o 11000:m 11003:o 11038:m 11047:o
11070:m 11071:o 11073:m 11075:o 1107F:m 11083:o 110B0:m 110BB:o 110C2:m 110D0:o 11100:m 11103:o
11127:m 11136:o 11145:m 11147:o 11173:m 11174:o 11180:m 11183:o 111B3:m 111C1:o 111C9:m 111CD:o
111CE:m 111D0:o 1122C:m 11238:o 1123E:m 1123F:o 11241:m 11280:o 112DF:m 112F0:o 11300:m 11305:o
1133B:m 1133D:o 1133E:m 11350:o 11357:m 1135D:o 11362:m 11380:o 113B8:m 113D1:o 113D2:m 113D3:o
113E1:m 11400:o 11435:m 11447:o 1145E:m 1145F:o 114B0:m 114C4:o 115AF:m 115C1:o 115DC:m 11600:o
11630:m 11641:o 116AB:m 116B8:o 1171D:m 11730:o 1182C:m 1183B:o 11930:m 1193F:o 11940:m 11941:o
11942:m 11944:o 119D1:m 119E1:o 119E4:m 11A00:o 11A01:m 11A0B:o 11A33:m 11A3A:o 11A3B:m 11A3F:o
11A47:m 11A50:o 11A51:m 11A5C:o 11A8A:m 11A9A:o 11B60:m 11B61:o 11B62:m 11B65:o 11B66:m 11B67:o
11C2F:m 11C40:o 11C92:m 11D00:o 11D31:m 11D46:o 11D47:m 11D50:o 11D8A:m 11D98:o 11EF3:m 11EF7:o
11F00:m 11F02:o 11F03:m 11F04:o 11F34:m 11F43:o 11F5A:m 11FB0:o 13440:m 13441:o 13447:m 13460:o
1611E:m 16130:o 16AF0:m 16AF5:o 16B30:m 16B37:o 16F4F:m 16F50:o 16F51:m 16F93:o 16FE4:m 16FF2:o
1BC9D:m 1BC9F:o 1CF00:m 1CF50:o 1D165:m 1D16A:o 1D16D:m 1D183:o 1D185:m 1D18C:o 1D1AA:m 1D1AE:o
1D242:m 1D245:o 1DA00:m 1DA37:o 1DA3B:m 1DA6D:o 1DA75:m 1DA76:o 1DA84:m 1DA85:o 1DA9B:m 1DF00:o
1E000:m 1E100:o 1E130:m 1E137:o 1E2AE:m 1E2C0:o 1E2EC:m 1E2F0:o 1E4EC:m 1E4F0:o 1E5EE:m 1E5F0:o
1E6E3:m 1E6E4:o 1E6E6:m 1E6E7:o 1E6EE:m 1E6F0:o 1E6F5:m 1E6FE:o 1E8D0:m 1E922:o 1E944:m 1E94B:o
"

end Throughput.Unicode

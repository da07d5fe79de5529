import ServiceAccess.Credentials.Pattern
import ServiceAccess.Resource.Basic

/-! # Storage buckets

A bucket is given as `s3://name`, with or without a slash at the end, as `arn:aws:s3:::name` or by its bare
name. All have the canonical spelling `s3://name`. -/

namespace ServiceAccess.Bucket

/-- The resource type of storage buckets. -/
def resourceType : String := "s3-bucket"

/-- Small letters and digits. -/
def isEnd (c : Char) : Bool := Text.isLower c || Text.isDigit c

/-- Small letters, digits, dots and dashes. -/
def isInner (c : Char) : Bool := isEnd c || c == '.' || c == '-'

/-- A bucket name: 3 to 63 small letters, digits, dots and dashes, with a letter or digit at both ends. -/
def bucketName : Regex := .seq (.one isEnd) (.seq (.between (.one isInner) 1 61) (.one isEnd))

/-- What the name of a bucket names, the only group of a match. -/
def ofBucket (m : Regex.Match) : Recognition :=
  let bucket := m.group 0
  ⟨"s3://" ++ bucket, .ofList [("bucket", some bucket)]⟩

/-- The pattern of storage URIs. -/
def uriPattern : List Regex.Part := [.skip (.word "s3://"), .group bucketName, .skip (.opt (.word "/"))]

/-- The pattern of storage resource names. -/
def arnPattern : List Regex.Part := [.skip (.word "arn:aws:s3:::"), .group bucketName]

/-- The pattern of bare names. -/
def namePattern : List Regex.Part := [.group bucketName]

/-- The reader of buckets. -/
def resolver : Resolver where
  resourceType := resourceType
  shapes := [
    .ofPattern "S3 URI" "s3://<bucket-name>" uriPattern ofBucket,
    .ofPattern "S3 bucket ARN" "arn:aws:s3:::<bucket-name>" arnPattern ofBucket,
    .ofPattern "S3 bucket name" "<bucket-name>" namePattern ofBucket]

end ServiceAccess.Bucket
